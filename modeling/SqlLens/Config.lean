import SqlLens.Alias
import SqlLens.Error
import SqlLens.Sql.Dialect
import SqlLens.Text.Blank
import SqlLens.Text.Casing
import SqlLens.Toml.Reader

namespace SqlLens

-- The dialect called `name`, whatever its case and the blanks around it.
def Dialect.ofName (name : String) : Except ConfigFault Dialect :=
  match Text.asciiLower (Text.trim name) with
  | "generic" => .ok .generic
  | "mysql" => .ok .mysql
  | "postgresql" | "postgres" => .ok .postgresql
  | "sqlite" => .ok .sqlite
  | "clickhouse" => .ok .clickhouse
  | other => .error (.unknownDialect other)

def defaultMaxLength : Nat := 1000

structure Config where
  -- The dialect's name as it is given.
  dialectName : Option String := none
  maxLength   : Nat := defaultMaxLength
  aliases     : AliasMap := {}
deriving DecidableEq, Repr

namespace Config

-- The entries of what is given as a table. A date counts as a table with one reserved entry.
def entries? : Toml.Value → Option Toml.Entries
  | .table _ es => some es
  | .datetime s => some [("$__toml_private_datetime", .text s)]
  | _ => none

-- The value of a section's only field: by its name in a table, by its place in a list.
def field? (name : String) : Toml.Value → Option (Option Toml.Value)
  | .array items => some items.head?
  | v => (entries? v).map (·.lookup name)

def isList : Toml.Value → Bool
  | .array _ => true
  | _ => false

-- A list has to name its dialect, a table need not.
def dialectOf? (part : Toml.Value) : Option (Option String) := do
  match ← field? "dialect" part with
  | some (.text s) => some (some s)
  | some _ => none
  | none => if isList part then none else some none

def maxLengthOf? (part : Toml.Value) : Option Nat := do
  match ← field? "max_length" part with
  | some (.integer n) => if 0 ≤ n && n < Text.numberLimit then some n.toNat else none
  | some _ => none
  | none => some defaultMaxLength

def aliasOf? : String × Toml.Value → Option (String × String)
  | (name, .text table) => some (name, table)
  | _ => none

def aliasesOf? (part : Toml.Value) : Option AliasMap := do
  return .ofList (← (← entries? part).mapM aliasOf?)

-- A section that is missing has its defaults; other sections do not matter.
def ofEntries? (es : Toml.Entries) : Option Config := do
  return {
    dialectName := ← (es.lookup "parser").elim (some none) dialectOf?
    maxLength := ← (es.lookup "truncate").elim (some defaultMaxLength) maxLengthOf?
    aliases := ← (es.lookup "aliases").elim (some {}) aliasesOf? }

-- The dialect, if one is given.
def dialect? (c : Config) : Except ConfigFault (Option Dialect) :=
  c.dialectName.mapM Dialect.ofName

def ofToml (text : String) : Except ConfigFault Config := do
  match (Toml.read? text).bind ofEntries? with
  | some c =>
    let _ ← c.dialect?
    return c
  | none => .error .invalidFile

-- The settings that the environment makes.
structure Environment where
  maxLength : Option String := none
  dialect   : Option String := none
deriving DecidableEq, Repr

def withMaxLength (c : Config) : Option String → Except ConfigFault Config
  | none => .ok c
  | some value =>
    match Text.number? (Text.trim value).toList with
    | some n => .ok { c with maxLength := n }
    | none => .error (.maxLength value)

def withDialect (c : Config) : Option String → Except ConfigFault Config
  | none => .ok c
  | some value => do
    let _ ← Dialect.ofName value
    return { c with dialectName := some value }

def override (c : Config) (env : Environment) : Except ConfigFault Config := do
  (← c.withMaxLength env.maxLength).withDialect env.dialect

-- A file of settings: there may be none, and it may be unreadable for some cause.
abbrev File := Option (Except String String)

-- A file replaces all settings before it.
def withFile (c : Config) : File → Except ConfigFault Config
  | none => .ok c
  | some (.error cause) => .error (.unreadable cause)
  | some (.ok text) => ofToml text

-- The settings of the home directory give way to those of the working directory, and both to the
-- environment.
def load (home here : File) (env : Environment) : Except ConfigFault Config := do
  let c ← withFile {} home
  let c ← c.withFile here
  c.override env

-- The chosen dialect, else the configured one, else the generic one.
def effectiveDialect (c : Config) : Option Dialect → Except ConfigFault Dialect
  | some d => .ok d
  | none => do return (← c.dialect?).getD .generic

end Config

-- An alias given as `ALIAS=TABLE`; neither side may be blank.
def aliasEntry (entry : String) : Except ConfigFault (String × String) :=
  match Text.splitAt? ['='] entry.toList with
  | some (name, table) =>
    let name := Text.trim (.ofList name)
    let table := Text.trim (.ofList table)
    if name.isEmpty || table.isEmpty then .error (.badAlias entry) else .ok (name, table)
  | none => .error (.badAlias entry)

def aliasEntries (entries : List String) : Except ConfigFault (List (String × String)) :=
  entries.mapM aliasEntry

end SqlLens
