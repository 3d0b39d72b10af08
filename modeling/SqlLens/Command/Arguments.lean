import SqlLens.Command.Basic

namespace SqlLens

namespace Arguments

inductive Verb where
  | columns
  | truncate
deriving DecidableEq, Repr

-- Options that take a value.
inductive Setting where
  | queries
  | dialect
  | input
  | format
  | aliasPair
  | maxLength
deriving DecidableEq, Repr

-- Options without a value.
inductive Switch where
  | verbose
  | noColor
  | help
  | version
deriving DecidableEq, Repr

inductive Key where
  | setting (s : Setting)
  | switch (s : Switch)
deriving DecidableEq, Repr

def Verb.ofName? : String → Option Verb
  | "columns" => some .columns
  | "truncate" => some .truncate
  | _ => none

-- The options behind a verb.
def Verb.long? (v : Verb) : String → Option Key
  | "queries" => some (.setting .queries)
  | "dialect" => some (.setting .dialect)
  | "input" => some (.setting .input)
  | "output-format" => some (.setting .format)
  | "alias" => if v == .columns then some (.setting .aliasPair) else none
  | "max-length" => if v == .truncate then some (.setting .maxLength) else none
  | "no-color" => some (.switch .noColor)
  | "verbose" => some (.switch .verbose)
  | "help" => some (.switch .help)
  | _ => none

def Verb.short? (v : Verb) : Char → Option Key
  | 'q' => some (.setting .queries)
  | 'i' => some (.setting .input)
  | 'f' => some (.setting .format)
  | 'a' => if v == .columns then some (.setting .aliasPair) else none
  | 'm' => if v == .truncate then some (.setting .maxLength) else none
  | 'v' => some (.switch .verbose)
  | 'h' => some (.switch .help)
  | _ => none

-- The options in front of a verb.
def rootLong? : String → Option Switch
  | "verbose" => some .verbose
  | "help" => some .help
  | "version" => some .version
  | _ => none

def rootShort? : Char → Option Switch
  | 'v' => some .verbose
  | 'h' => some .help
  | 'V' => some .version
  | _ => none

-- The form of an argument.
inductive Word where
  | long (name : String) (value : Option String)
  | short (letters : List Char)
  | plain
deriving DecidableEq, Repr

-- A single dash is no option.
def Word.of (arg : String) : Word :=
  match arg.toList with
  | '-' :: '-' :: cs =>
    match Text.splitAt? ['='] cs with
    | some (name, value) => .long (.ofList name) (some (.ofList value))
    | none => .long (.ofList cs) none
  | '-' :: c :: cs => .short (c :: cs)
  | _ => .plain

-- A command that is being read.
structure Draft where
  queries   : Option String := none
  dialect   : Option Dialect := none
  input     : Option Input := none
  format    : Option Report.Format := none
  aliases   : List String := []
  maxLength : Option Nat := none
  noColor   : Bool := false
  verbose   : Bool := false
  -- The last option, if its value stands on its own: the value is still to come, or to be looked
  -- at.
  pending   : Option (Setting × Option String) := none

namespace Draft

def has (d : Draft) : Setting → Bool
  | .queries => d.queries.isSome
  | .dialect => d.dialect.isSome
  | .input => d.input.isSome
  | .format => d.format.isSome
  | .aliasPair => false
  | .maxLength => d.maxLength.isSome

-- One of the possible values.
def choice (value : Option α) : Except Usage α := value.elim (.error .invalidValue) .ok

def store (d : Draft) (s : Setting) (value : String) : Except Usage Draft :=
  match s with
  | .queries =>
    if value.isEmpty then .error .invalidValue else .ok { d with queries := some value }
  | .dialect => do return { d with dialect := some (← choice (Dialect.ofWord? value)) }
  | .input => do return { d with input := some (← choice (Input.ofWord? value)) }
  | .format => do return { d with format := some (← choice (Report.Format.ofWord? value)) }
  | .aliasPair => .ok { d with aliases := d.aliases ++ [value] }
  | .maxLength =>
    match Text.number? value.toList with
    | some n => .ok { d with maxLength := some n }
    | none => .error .notNumber

def set (d : Draft) (s : Setting) (value : String) : Except Usage Draft :=
  if d.has s then .error .conflict else d.store s value

-- Looks at the value of the last option.
def settle (d : Draft) : Except Usage Draft :=
  match d.pending with
  | none => .ok d
  | some (_, none) => .error .invalidValue
  | some (s, some value) => { d with pending := none }.set s value

-- An option and its value in one argument.
def give (d : Draft) (s : Setting) (value : String) : Except Usage Draft := do
  (← d.settle).set s value

-- An option whose value is to come.
def await (d : Draft) (s : Setting) : Except Usage Draft := do
  return { ← d.settle with pending := some (s, none) }

def turnOn (d : Draft) (s : Switch) : Except Usage Draft := do
  let d ← d.settle
  match s with
  | .verbose => if d.verbose then .error .conflict else return { d with verbose := true }
  | .noColor => if d.noColor then .error .conflict else return { d with noColor := true }
  | .help => .error .help
  | .version => .error .version

end Draft

-- Letters behind one dash: switches, and at most one option, whose value is the rest.
def cluster (v : Verb) (d : Draft) : List Char → Except Usage Draft
  | [] => .ok d
  | c :: rest =>
    match v.short? c with
    | none => .error .unknownArgument
    | some (.switch s) => do cluster v (← d.turnOn s) rest
    | some (.setting s) =>
      match rest with
      | [] => d.await s
      | '=' :: value => d.give s (.ofList value)
      | value => d.give s (.ofList value)

def longOption (v : Verb) (d : Draft) (name : String) (value : Option String) :
    Except Usage Draft :=
  match v.long? name, value with
  | none, _ => .error .unknownArgument
  | some (.switch _), some _ => .error .tooManyValues
  | some (.switch s), none => d.turnOn s
  | some (.setting s), some value => d.give s value
  | some (.setting s), none => d.await s

-- An argument that is no option is a value that is awaited, or not known.
def plainValue (d : Draft) (arg : String) : Except Usage Draft :=
  match d.pending with
  | some (s, none) => .ok { d with pending := some (s, some arg) }
  | _ => .error .unknownArgument

def step (v : Verb) (d : Draft) (arg : String) : Except Usage Draft :=
  match Word.of arg with
  | .long name value => longOption v d name value
  | .short letters => cluster v d letters
  | .plain => plainValue d arg

-- The arguments behind a verb. Two dashes alone end the options, and nothing else is expected.
def collect (v : Verb) (d : Draft) : List String → Except Usage Draft
  | [] => d.settle
  | arg :: rest =>
    if arg == "--" then if rest.isEmpty then d.settle else .error .unknownArgument
    else do collect v (← step v d arg) rest

def finish (v : Verb) (verbose : Bool) (d : Draft) : Except Usage Command :=
  match d.queries with
  | none => .error .missingArgument
  | some queries => .ok {
      task := match v with
        | .columns => .columns d.aliases
        | .truncate => .truncate d.maxLength
      queries, dialect := d.dialect
      input := d.input.getD .sql, format := d.format.getD .text
      noColor := d.noColor, verbose := verbose || d.verbose }

-- Help on a verb, or on the program.
def helpOn : List String → Usage
  | [] => .help
  | [name] => if (Verb.ofName? name).isSome || name == "help" then .help else .invalidSubcommand
  | _ => .invalidSubcommand

-- Switches in front of the verb.
def rootSwitch (verbose : Bool) : Switch → Except Usage Bool
  | .verbose => if verbose then .error .conflict else .ok true
  | .version => .error .version
  | _ => .error .help

def rootCluster (verbose : Bool) : List Char → Except Usage Bool
  | [] => .ok verbose
  | c :: rest =>
    match rootShort? c with
    | none => .error .unknownArgument
    | some s => do rootCluster (← rootSwitch verbose s) rest

def rootOption (verbose : Bool) (arg : String) : Except Usage Bool :=
  match Word.of arg with
  | .long name value =>
    match rootLong? name, value with
    | none, _ => .error .unknownArgument
    | some _, some _ => .error .tooManyValues
    | some s, none => rootSwitch verbose s
  | .short letters => rootCluster verbose letters
  | .plain => .error .invalidSubcommand

def isVerb (name : String) : Bool := (Verb.ofName? name).isSome || name == "help"

-- No verb has been found.
def missing (verbose : Bool) : Usage := if verbose then .missingSubcommand else .nothing

-- Behind two dashes a verb is not taken for one.
def afterDashes (verbose : Bool) : List String → Usage
  | [] => missing verbose
  | arg :: _ => if isVerb arg then .unknownArgument else .invalidSubcommand

def root (verbose : Bool) : List String → Except Usage Command
  | [] => .error (missing verbose)
  | arg :: rest =>
    match Verb.ofName? arg with
    | some v => do finish v verbose (← collect v {} rest)
    | none =>
      if arg == "help" then .error (helpOn rest)
      else if arg == "--" then .error (afterDashes verbose rest)
      else do root (← rootOption verbose arg) rest

end Arguments

-- The command that the arguments spell.
def Command.ofArguments (args : List String) : Except Usage Command := Arguments.root false args

end SqlLens
