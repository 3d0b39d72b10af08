import SqlLens.Sql.Grammar.Block
import SqlLens.Sql.Grammar.Define

namespace SqlLens.Sql.Parser

open Phrase (words option flag)

-- An argument by its type, with a name in front if there are two of them.
def functionArg (r : Rules) : Parser (List Piece) := do
  let mode ← oneOf? ["IN", "OUT", "INOUT"]
  let before := (← get).rest
  let first ← typeName r
  let last := before.getD (before.length - (← get).rest.length - 1) eofLexeme
  let second ← attempt do
    if ← peekKeyword "DEFAULT" then fail "The DEFAULT keyword is not a type"
    typeName r
  let argument ← (do
    match second with
    | none => return Phrase.dataType first
    | some type =>
      if !last.token.isWord then expectedAt "a name or type" last
      return Phrase.ident ⟨last.token.text, none⟩ ++ words " " ++ Phrase.dataType type)
  let default ← (do
    if (← keyword? "DEFAULT") || (← symbol? "=") then return some (← r.expr 0) else return none)
  return option "" (fun k => words (k ++ " ")) mode ++ argument ++ option " = " Phrase.expr default

def functionArgs (r : Rules) : Parser (List Piece) := do
  return Phrase.parens (Phrase.commas (← parenthesized (commaSeparated0 (functionArg r) ")")))

-- A function by its name, with the arguments it takes or without.
def functionLabel (r : Rules) : Parser (List Piece) := do
  let function ← name
  let args ← (do if ← peekSymbol "(" then functionArgs r else return [])
  return Phrase.name function ++ args

-- The text of a function, as a string of either kind.
def codeText : Parser (List Piece) := do
  let d ← dialect
  match ← token with
  | .dollar text tag =>
    if d.isPostgresql || d.isGeneric then
      skip
      return Phrase.literal (.other (Token.dollar text tag).text)
    else return Phrase.literal (.string (← stringLiteral))
  | _ => return Phrase.literal (.string (← stringLiteral))

-- What is said about a function behind its result, in any order and nothing twice.
structure FunctionTraits where
  language : Option Ident := none
  behavior : Option String := none
  onNull   : Option String := none
  parallel : Option String := none
  body     : Option (List Piece) := none

def FunctionTraits.pieces (t : FunctionTraits) : List Piece :=
  option " LANGUAGE " Phrase.ident t.language ++ option " " words t.behavior ++
    option " " words t.onNull ++ option " PARALLEL " words t.parallel ++ t.body.getD []

def functionTrait? (r : Rules) (t : FunctionTraits) : Parser (Option FunctionTraits) := do
  let once {α : Type} (known : Option α) (what : String) : Parser Unit :=
    if known.isSome then fail (what ++ " specified more than once") else return ()
  if ← keyword? "AS" then
    once t.body "AS"
    let code ← codeText
    let linked ← (do if ← symbol? "," then return some (← codeText) else return none)
    return some { t with body := some (words " AS " ++ code ++ option ", " id linked) }
  if ← keyword? "LANGUAGE" then
    once t.language "LANGUAGE"
    return some { t with language := some (← ident) }
  if let some k ← oneOf? ["IMMUTABLE", "STABLE", "VOLATILE"] then
    once t.behavior "IMMUTABLE | STABLE | VOLATILE"
    return some { t with behavior := some k }
  let onNull := [["CALLED", "ON", "NULL", "INPUT"], ["RETURNS", "NULL", "ON", "NULL", "INPUT"],
    ["STRICT"]]
  if let some ks ← firstOf? onNull then
    once t.onNull "CALLED ON NULL INPUT | RETURNS NULL ON NULL INPUT | STRICT"
    return some { t with onNull := some (" ".intercalate ks) }
  if ← keyword? "PARALLEL" then
    once t.parallel "PARALLEL \x7b UNSAFE | RESTRICTED | SAFE \x7d"
    match ← oneOf? ["UNSAFE", "RESTRICTED", "SAFE"] with
    | some k => return some { t with parallel := some k }
    | none => expected "one of UNSAFE | RESTRICTED | SAFE"
  if ← keyword? "RETURN" then
    once t.body "RETURN"
    return some { t with body := some (words " RETURN " ++ Phrase.expr (← r.expr 0)) }
  return none

def createFunction (r : Rules) (lead : String) : Parser Statement := do
  let function ← name
  let args ← functionArgs r
  let result ← after? "RETURNS" (typeName r)
  let traits ← repeated (functionTrait? r) {}
  return .phrase (words (lead ++ "FUNCTION ") ++ Phrase.name function ++ args ++
    option " RETURNS " Phrase.dataType result ++ traits.pieces)

def procedureParam (r : Rules) : Parser (List Piece) := do
  let mode ← oneOf? ["IN", "OUT", "INOUT"]
  let param ← ident
  let type ← typeName r
  let default ← (do if ← symbol? "=" then return some (← r.expr 0) else return none)
  return option "" (fun k => words (k ++ " ")) mode ++ Phrase.ident param ++ words " " ++
    Phrase.dataType type ++ option " = " Phrase.expr default

def createProcedure (r : Rules) (alter : Bool) : Parser Statement := do
  let procedure ← name
  let params ← (do
    if ← peekSymbol "(" then parenthesized (commaSeparated0 (procedureParam r) ")")
    else return [])
  let language ← after? "LANGUAGE" ident
  expectKeyword "AS"
  let body ← block r ["END"]
  return .phrase (words "CREATE " ++ flag alter "OR ALTER " ++ words "PROCEDURE " ++
    Phrase.name procedure ++
    Phrase.list " " (fun ps => Phrase.parens (Phrase.commas ps)) params ++
    option " LANGUAGE " Phrase.ident language ++ words " AS " ++ body.pieces)

def triggerPeriod : Parser String := do
  match ← expectOneOf ["FOR", "BEFORE", "AFTER", "INSTEAD"] with
  | "INSTEAD" =>
    expectKeyword "OF"
    return "INSTEAD OF "
  | k => return k ++ " "

def triggerEvent : Parser (List Piece) := do
  match ← expectOneOf ["INSERT", "UPDATE", "DELETE", "TRUNCATE"] with
  | "UPDATE" =>
    return words "UPDATE" ++ option " OF " Phrase.idents (← after? "OF" (commaSeparated ident))
  | k => return words k

-- A name for the rows before or after the change.
def triggerRows? : Parser (Option (List Piece)) := do
  match ← oneOf? ["OLD", "NEW"] with
  | none => return none
  | some k =>
    if !(← keyword? "TABLE") then return none
    let explicit ← keyword? "AS"
    return some (words (k ++ " TABLE ") ++ flag explicit "AS " ++ Phrase.name (← name))

-- `lead` ends in front of `TRIGGER`.
def createTrigger (r : Rules) (lead : String) : Parser Statement := do
  let trigger ← name
  let period ← attempt triggerPeriod
  let events ← separated (keyword? "OR") triggerEvent
  expectKeyword "ON"
  let table ← name
  let other ← after? "FROM" name
  let checked ← characteristics
  let rows ← (do if ← keyword? "REFERENCING" then many triggerRows? else return [])
  let each ← (do
    if !(← keyword? "FOR") then return ""
    let each ← keyword? "EACH"
    return (if each then " FOR EACH " else " FOR ") ++ (← expectOneOf ["ROW", "STATEMENT"]))
  let cond ← after? "WHEN" (r.expr 0)
  let action ← (do
    if ← keyword? "EXECUTE" then
      let kind ← expectOneOf ["FUNCTION", "PROCEDURE"]
      return words ("EXECUTE " ++ kind ++ " ") ++ (← functionLabel r)
    else return (← block r ["END"]).pieces)
  return .phrase (words (lead ++ "TRIGGER ") ++ Phrase.name trigger ++
    words (" " ++ period.getD "") ++ Phrase.separated " OR " events ++ words " ON " ++
    Phrase.name table ++ option " FROM " Phrase.name other ++ checked ++
    Phrase.list " REFERENCING " (Phrase.separated " ") rows ++ words each ++
    option " WHEN " Phrase.expr cond ++ words " " ++ action)

-- A shorthand for an expression or a query.
def createMacro (r : Rules) (lead : String) : Parser Statement := do
  let shorthand ← name
  let args ← parenthesized (commaSeparated0 (do
    let arg ← ident
    let default ← (do
      if (← symbol? ":=") || (← symbol? "=>") then return some (← r.expr 0) else return none)
    return Phrase.ident arg ++ option " := " Phrase.expr default) ")")
  expectKeyword "AS"
  let definition ← (do
    if ← keyword? "TABLE" then return words "TABLE " ++ Phrase.query (← r.query)
    return Phrase.expr (← r.expr 0))
  return .phrase (words (lead ++ "MACRO ") ++ Phrase.name shorthand ++
    Phrase.list "" (fun ps => Phrase.parens (Phrase.commas ps)) args ++ words " AS " ++ definition)

-- An operator by its symbol, behind the names it belongs to.
def operatorName : Parser (List Piece) := do
  let parts ← separated (symbol? ".") do
    let l ← next
    return Phrase.ident ⟨l.token.text, none⟩
  return Phrase.separated "." parts

-- The types on both sides of an operator. On the left there may be none.
def operatorSides (r : Rules) : Parser (List Piece) := do
  let sides ← parenthesized do
    let left ← (do
      if ← keyword? "NONE" then return words "NONE"
      return Phrase.dataType (← typeName r))
    expectSymbol ","
    return left ++ words ", " ++ Phrase.dataType (← typeName r)
  return words " " ++ Phrase.parens sides

end SqlLens.Sql.Parser
