import SqlLens.Sql.Grammar.Call

namespace SqlLens.Sql.Parser

open Phrase (words option flag)

def caseForm (r : Rules) : Parser Expr := do
  let operand ← (do
    if ← keyword? "WHEN" then return none
    let e ← r.expr 0
    expectKeyword "WHEN"
    return some e)
  let branches ← separated (keyword? "WHEN") do
    let cond ← r.expr 0
    expectKeyword "THEN"
    let value ← r.expr 0
    return words " WHEN " ++ Phrase.expr cond ++ words " THEN " ++ Phrase.expr value
  let otherwise ← after? "ELSE" (r.expr 0)
  expectKeyword "END"
  return .phrase (words "CASE" ++ option " " Phrase.expr operand ++ branches.flatten ++
    option " ELSE " Phrase.expr otherwise ++ words " END")

def castForm (r : Rules) (k : String) : Parser Expr := do
  expectSymbol "("
  let e ← r.expr 0
  expectKeyword "AS"
  let type ← typeName r
  let format ← after? "FORMAT" do
    let pattern ← literal
    let zone ← (do
      if ← keywords? ["AT", "TIME", "ZONE"] then return some (← literal) else return none)
    return Phrase.literal pattern ++ option " AT TIME ZONE " Phrase.literal zone
  expectSymbol ")"
  return .phrase (words (k ++ "(") ++ Phrase.expr e ++ words " AS " ++ Phrase.dataType type ++
    option " FORMAT " id format ++ words ")")

def convertForm (r : Rules) (k : String) : Parser Expr := do
  expectSymbol "("
  let e ← r.expr 0
  let head := words (k ++ "(") ++ Phrase.expr e
  if ← keyword? "USING" then
    let charset ← name
    expectSymbol ")"
    return .phrase (head ++ words " USING " ++ Phrase.name charset ++ words ")")
  expectSymbol ","
  let type ← typeName r
  let charset ← (do
    if ← keywords? ["CHARACTER", "SET"] then return some (← name) else return none)
  expectSymbol ")"
  return .phrase (head ++ words ", " ++ Phrase.dataType type ++
    option " CHARACTER SET " Phrase.name charset ++ words ")")

def existsForm (r : Rules) (negated : Bool) : Parser Expr := do
  let q ← parenthesized r.query
  return .exists q negated

def notForm (r : Rules) : Parser Expr := do
  if ← keyword? "EXISTS" then existsForm r true
  else return .unary "NOT" (← r.expr (← strengthOf .not))

def extractForm (r : Rules) : Parser Expr := do
  expectSymbol "("
  let field ← dateField
  let mark ← (do
    if ← keyword? "FROM" then return " FROM "
    if (← dialect).isGeneric && (← peekSymbol ",") then
      skip
      return ", "
    fail "Expected 'FROM' or ','")
  let e ← r.expr 0
  expectSymbol ")"
  return .phrase (words "EXTRACT(" ++ field ++ words mark ++ Phrase.expr e ++ words ")")

-- Rounding up and down, to a part of a date or to a number of digits.
def roundForm (r : Rules) (k : String) : Parser Expr := do
  expectSymbol "("
  let e ← r.expr 0
  let target ← (do
    if ← keyword? "TO" then return words " TO " ++ (← dateField)
    if ← symbol? "," then
      match ← literal with
      | .number digits long => return words ", " ++ Phrase.literal (.number digits long)
      | _ => fail "Scale field can only be of number type"
    return [])
  expectSymbol ")"
  return .phrase (words (k ++ "(") ++ Phrase.expr e ++ target ++ words ")")

def positionForm (r : Rules) (id : Ident) : Parser Expr := do
  let found ← attempt do
    expectSymbol "("
    let e ← r.expr (← strengthOf .between)
    expectKeyword "IN"
    let text ← r.expr 0
    expectSymbol ")"
    return words "POSITION(" ++ Phrase.expr e ++ words " IN " ++ Phrase.expr text ++ words ")"
  match found with
  | some pieces => return .phrase pieces
  | none => return .call (← call r [id])

def substringForm (r : Rules) (k : String) : Parser Expr := do
  expectSymbol "("
  let e ← r.expr 0
  let comma ← symbol? ","
  let start ← (do
    if comma then return some (← r.expr 0) else after? "FROM" (r.expr 0))
  let length ← (do
    if ← keyword? "FOR" then return some (← r.expr 0)
    if ← symbol? "," then return some (← r.expr 0)
    return none)
  expectSymbol ")"
  return .phrase (words (k ++ "(") ++ Phrase.expr e ++
    option (if comma then ", " else " FROM ") Phrase.expr start ++
    option (if comma then ", " else " FOR ") Phrase.expr length ++ words ")")

def overlayForm (r : Rules) : Parser Expr := do
  expectSymbol "("
  let e ← r.expr 0
  expectKeyword "PLACING"
  let what ← r.expr 0
  expectKeyword "FROM"
  let start ← r.expr 0
  let length ← after? "FOR" (r.expr 0)
  expectSymbol ")"
  return .phrase (words "OVERLAY(" ++ Phrase.expr e ++ words " PLACING " ++ Phrase.expr what ++
    words " FROM " ++ Phrase.expr start ++ option " FOR " Phrase.expr length ++ words ")")

def trimForm (r : Rules) : Parser Expr := do
  expectSymbol "("
  let side ← oneOf? ["BOTH", "LEADING", "TRAILING"]
  let e ← r.expr 0
  let head := words "TRIM(" ++ option "" (fun s => words (s ++ " ")) side
  if ← keyword? "FROM" then
    let text ← r.expr 0
    expectSymbol ")"
    return .phrase (head ++ Phrase.expr e ++ words " FROM " ++ Phrase.expr text ++ words ")")
  else if (← dialect).isGeneric && (← peekSymbol ",") then
    skip
    let characters ← commaSeparated (r.expr 0)
    expectSymbol ")"
    return .phrase (words "TRIM(" ++ Phrase.expr e ++ words ", " ++ Phrase.exprs characters ++
      words ")")
  else
    expectSymbol ")"
    return .phrase (head ++ Phrase.expr e ++ words ")")

-- Elements up to a closing bracket.
def arrayForm (r : Rules) (named : Bool) : Parser Expr := do
  let items ← commaSeparated0 (r.expr 0) "]"
  expectSymbol "]"
  return .phrase (words (if named then "ARRAY[" else "[") ++ Phrase.exprs items ++ words "]")

def matchForm : Parser Expr := do
  let columns ← columnList true false name
  expectKeyword "AGAINST"
  expectSymbol "("
  let value ← literal
  let modifier ← (do
    if ← keywords? ["IN", "NATURAL", "LANGUAGE", "MODE"] then
      if ← keywords? ["WITH", "QUERY", "EXPANSION"] then
        return " IN NATURAL LANGUAGE MODE WITH QUERY EXPANSION"
      else return " IN NATURAL LANGUAGE MODE"
    if ← keywords? ["IN", "BOOLEAN", "MODE"] then return " IN BOOLEAN MODE"
    if ← keywords? ["WITH", "QUERY", "EXPANSION"] then return " WITH QUERY EXPANSION"
    return "")
  expectSymbol ")"
  return .phrase (words "MATCH (" ++ Phrase.names columns ++ words ") AGAINST (" ++
    Phrase.literal value ++ words (modifier ++ ")"))

def structForm (r : Rules) : Parser Expr := do
  let (type, closed) ← structType r
  if closed then fail "unmatched > in STRUCT literal" (← position?)
  let typed := type.length > 1
  let values ← parenthesized (commaSeparated do
    let e ← r.expr 0
    if ← keyword? "AS" then
      if typed then fail "Typed syntax does not allow AS" (← position?)
      return Phrase.expr e ++ words " AS " ++ Phrase.ident (← ident)
    return Phrase.expr e)
  return .phrase (Phrase.dataType type ++ Phrase.parens (Phrase.commas values))

-- Pairs of keys and values between braces.
def mapForm (r : Rules) : Parser Expr := do
  expectSymbol "\x7b"
  let entries ← commaSeparated0 (do
    let key ← r.expr 0
    expectSymbol ":"
    let value ← r.expr 0
    return Phrase.expr key ++ words ": " ++ Phrase.expr value) "\x7d"
  expectSymbol "\x7d"
  return .phrase (words "MAP \x7b" ++ Phrase.commas entries ++ words "\x7d")

def dictionaryForm (r : Rules) : Parser Expr := do
  expectSymbol "\x7b"
  let entries ← commaSeparated0 (do
    let key ← ident
    expectSymbol ":"
    let value ← r.expr 0
    return Phrase.ident key ++ words ": " ++ Phrase.expr value) "\x7d"
  expectSymbol "\x7d"
  return .phrase (words "\x7b" ++ Phrase.commas entries ++ words "\x7d")

-- A call or a date inside braces.
def bracedBody (r : Rules) : Parser Expr := do
  if ← keyword? "FN" then
    let f ← call r (← name)
    return .call { f with odbc := true }
  let l ← next
  match l.token with
  | .word text _ none =>
    if ["d", "t", "ts"].contains text then
      let value ← literal
      return .phrase (words ("\x7b" ++ text ++ " ") ++ Phrase.literal value ++ words "\x7d")
    else expectedAt "an expression" l
  | _ => expectedAt "an expression" l

def bracedForm (r : Rules) : Parser Expr := do
  let l ← lexeme
  let found ← attempt do
    expectSymbol "\x7b"
    bracedBody r
  match found with
  | some e =>
    expectSymbol "\x7d"
    return e
  | none =>
    if (← dialect).hasDictionaries then dictionaryForm r else expectedAt "an expression" l

-- The time of the query, with or without a precision.
def timeForm (r : Rules) (id : Ident) : Parser Expr := do
  if ← symbol? "(" then
    return .call { name := [id], args := .list (← arguments r) }
  else return .call { name := [id], args := .none }

def shapeForm (k : String) : Parser Expr := do
  let value ← literal
  return .phrase (words (k ++ " ") ++ Phrase.literal value)

-- The form that a keyword begins, read behind the keyword; nothing if there is none.
def keywordForm? (r : Rules) (id : Ident) (k : String) : Parser (Option Expr) := do
  let d ← dialect
  match k with
  | "TRUE" => return some (.literal (.boolean true))
  | "FALSE" => return some (.literal (.boolean false))
  | "NULL" => return some (.literal .null)
  | "CURRENT_CATALOG" | "CURRENT_USER" | "SESSION_USER" | "USER" =>
    if d.isGeneric || d.isPostgresql then
      return some (.call { name := [id], args := .none })
    else return none
  | "CURRENT_TIMESTAMP" | "CURRENT_TIME" | "CURRENT_DATE" | "LOCALTIME" | "LOCALTIMESTAMP" =>
    return some (← timeForm r id)
  | "CASE" => return some (← caseForm r)
  | "CONVERT" => return some (← convertForm r k)
  | "TRY_CONVERT" => if d.hasTryConvert then return some (← convertForm r k) else return none
  | "CAST" | "TRY_CAST" | "SAFE_CAST" => return some (← castForm r k)
  | "EXISTS" => return some (← existsForm r false)
  | "EXTRACT" => return some (← extractForm r)
  | "CEIL" | "FLOOR" => return some (← roundForm r k)
  | "POSITION" =>
    if ← peekSymbol "(" then return some (← positionForm r id) else return none
  | "SUBSTR" | "SUBSTRING" => return some (← substringForm r k)
  | "OVERLAY" => return some (← overlayForm r)
  | "TRIM" => return some (← trimForm r)
  | "INTERVAL" => return some (← interval r)
  | "ARRAY" =>
    if ← symbol? "[" then return some (← arrayForm r true)
    if !d.isClickhouse && (← peekSymbol "(") then
      let q ← parenthesized r.query
      return some (.call { name := [id], args := .query q })
    return none
  | "NOT" => return some (← notForm r)
  | "MATCH" => if d.hasMatchAgainst then return some (← matchForm) else return none
  | "STRUCT" => if d.hasStructs then return some (← structForm r) else return none
  | "PRIOR" =>
    if (← get).mode == .connectBy then
      return some (.phrase (words "PRIOR " ++ Phrase.expr (← r.expr (← strengthOf .plus))))
    else return none
  | "MAP" =>
    if d.hasMaps && (← peekSymbol "\x7b") then return some (← mapForm r) else return none
  | _ =>
    if d.hasGeometry && DataType.shapes.contains k then return some (← shapeForm k)
    else return none

end SqlLens.Sql.Parser
