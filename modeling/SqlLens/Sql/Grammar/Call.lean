import SqlLens.Sql.Grammar.DataType
import SqlLens.Sql.Grammar.Operator

namespace SqlLens.Sql

namespace Phrase

def item : Item → List Piece
  | .expr e => expr e
  | .aliased e id => expr e ++ words " AS " ++ ident id
  | .star options => words "*" ++ options
  | .phrase pieces => pieces

def items (is : List Item) : List Piece := commas (is.map item)

def orderItem (i : OrderItem) : List Piece :=
  expr i.expr ++ words (orderSuffix i.asc i.nullsFirst) ++ i.fill

def orderItems (is : List OrderItem) : List Piece := commas (is.map orderItem)

def types (ts : List DataType) : List Piece := commas (ts.map dataType)

end Phrase

open Phrase

-- Clauses with a blank between them.
def clauses (ps : List (List Piece)) : List Piece :=
  Phrase.separated " " (ps.filter (!·.isEmpty))

def ArgumentList.pieces (a : ArgumentList) : List Piece :=
  parens (words (distinctText a.distinct) ++
    clauses [items a.args, a.before, list "ORDER BY " orderItems a.order, a.after])

namespace Parser

open Phrase (words)

def sortDirection : Parser (Option Bool) := do
  match ← oneOf? ["ASC", "DESC"] with
  | some k => return some (k == "ASC")
  | none => return none

def nullsPlace : Parser (Option Bool) := do
  if ← keywords? ["NULLS", "FIRST"] then return some true
  else if ← keywords? ["NULLS", "LAST"] then return some false
  else return none

-- How gaps between sorted values are filled.
def fill (r : Rules) : Parser (List Piece) := do
  let d ← dialect
  if !(d.isClickhouse || d.isGeneric) then return []
  if !(← keywords? ["WITH", "FILL"]) then return []
  let start ← after? "FROM" (r.expr 0)
  let stop ← after? "TO" (r.expr 0)
  let step ← after? "STEP" (r.expr 0)
  return words " WITH FILL" ++ option " FROM " Phrase.expr start ++
    option " TO " Phrase.expr stop ++ option " STEP " Phrase.expr step

def orderItem (r : Rules) : Parser OrderItem := do
  let e ← r.expr 0
  let asc ← sortDirection
  let nullsFirst ← nullsPlace
  return ⟨e, asc, nullsFirst, ← fill r⟩

def orderItems (r : Rules) : Parser (List OrderItem) := commaSeparated (orderItem r)

-- The parts of a dotted name that ends in `*`. The scan fails at what cannot follow a dot.
def qualifiedStar : List Lexeme → Name → Except Lexeme (Option (Name × List Lexeme))
  | dot :: l :: rest, parts =>
    if dot.token.isSymbol "." then
      match l.token with
      | .word text _ quote => qualifiedStar rest (⟨text, quote⟩ :: parts)
      | .string .single text => qualifiedStar rest (⟨text, some '\x27'⟩ :: parts)
      | .symbol "*" => .ok (some (parts.reverse, rest))
      | _ => .error l
    else .ok none
  | _, _ => .ok none

-- An expression, `*`, or `*` behind a name.
def starOrExpr (r : Rules) : Parser Item := do
  let l ← lexeme
  let first := match l.token with
    | .word text _ quote => some (Ident.mk text quote)
    | .string .single text => some ⟨text, some '\x27'⟩
    | _ => none
  match first with
  | some id =>
    match qualifiedStar ((← get).rest.drop 1) [id] with
    | .error l => expectedAt "an identifier or a '*' after '.'" l
    | .ok (some (parts, rest)) =>
      modify fun s => { s with rest := rest }
      return .phrase (Phrase.name parts ++ words ".*")
    | .ok none => return .expr (← r.expr 0)
  | none =>
    if ← symbol? "*" then return .star []
    return .expr (← r.expr 0)

-- The sign between the name and the value of an argument.
def argumentSign : Parser String := do
  let d ← dialect
  if ← keyword? "VALUE" then return "VALUE"
  let l ← next
  match l.token with
  | .symbol "=>" => return "=>"
  | .symbol ":=" =>
    if d.isGeneric || d.isPostgresql then return ":=" else expectedAt "argument operator" l
  | .symbol ":" => if d.isPostgresql then return ":" else expectedAt "argument operator" l
  | _ => expectedAt "argument operator" l

-- An argument with or without a name.
def argument (r : Rules) : Parser Item := do
  let d ← dialect
  let named ← attempt do
    let label ← (do
      if d.isPostgresql then return Phrase.expr (← r.expr 0) else return Phrase.ident (← ident))
    let sign ← argumentSign
    let value ← starOrExpr r
    return label ++ words (" " ++ sign ++ " ") ++ item value
  match named with
  | some pieces => return .phrase pieces
  | none => starOrExpr r

def nullTreatment : Parser (Option String) := do
  match ← oneOf? ["RESPECT", "IGNORE"] with
  | some k =>
    expectKeyword "NULLS"
    return some (k ++ " NULLS")
  | none => return none

def jsonNulls : Parser (List Piece) := do
  if ← keywords? ["NULL", "ON", "NULL"] then return words "NULL ON NULL"
  else if ← keywords? ["ABSENT", "ON", "NULL"] then return words "ABSENT ON NULL"
  else return []

def jsonReturning (r : Rules) : Parser (List Piece) := do
  if ← keyword? "RETURNING" then
    return words "RETURNING " ++ Phrase.dataType (← typeName r)
  else return []

def overflowClause (r : Rules) : Parser (List Piece) := do
  if !(← keywords? ["ON", "OVERFLOW"]) then return []
  if ← keyword? "ERROR" then return words "ON OVERFLOW ERROR"
  expectKeyword "TRUNCATE"
  let filler ← (do
    if ← peekAny ["WITH", "WITHOUT"] then return none
    match ← token with
    | .string .. => return some (← r.expr 0)
    | _ => expected "either filler, WITH, or WITHOUT in LISTAGG")
  let count ← (do
    if ← keyword? "WITH" then return " WITH COUNT"
    if ← keyword? "WITHOUT" then return " WITHOUT COUNT"
    expected "either WITH or WITHOUT in LISTAGG")
  expectKeyword "COUNT"
  return words "ON OVERFLOW TRUNCATE" ++ option " " Phrase.expr filler ++ words count

-- The arguments behind an opening parenthesis, up to the closing one.
def arguments (r : Rules) : Parser ArgumentList := do
  let d ← dialect
  let lead := clauses [← jsonNulls, ← jsonReturning r]
  if ← symbol? ")" then return { before := lead }
  let start ← position?
  let all ← keyword? "ALL"
  let distinct ← keyword? "DISTINCT"
  if all && distinct then fail "Cannot specify both ALL and DISTINCT" start
  let args ← commaSeparated (argument r)
  let nulls ← (do
    if d.hasNullTreatmentArgument then return (← nullTreatment) else return none)
  let order ← (do if ← keywords? ["ORDER", "BY"] then orderItems r else return [])
  let limit ← after? "LIMIT" (r.expr 0)
  let having ← (do
    if d.isGeneric then
      after? "HAVING" do
        let k ← expectOneOf ["MIN", "MAX"]
        return words ("HAVING " ++ k ++ " ") ++ Phrase.expr (← r.expr 0)
    else return none)
  let separator ← (do
    if d.isGeneric || d.isMysql then after? "SEPARATOR" literal else return none)
  let overflow ← overflowClause r
  let jsonNulls ← jsonNulls
  let jsonReturning ← jsonReturning r
  expectSymbol ")"
  return {
    distinct := if all then some false else if distinct then some true else none
    args := args
    before := clauses [lead, option "" words nulls]
    order := order
    after := clauses [option "LIMIT " Phrase.expr limit, having.getD [],
      option "SEPARATOR " Phrase.literal separator, overflow, jsonNulls, jsonReturning] }

-- A part of a point in time.
def dateField : Parser (List Piece) := do
  let d ← dialect
  let l ← lexeme
  match l.token with
  | .word _ k _ =>
    if Words.dateFields.contains k then
      skip
      if k == "WEEK" && d.isGeneric && (← peekSymbol "(") then
        return words "WEEK(" ++ Phrase.ident (← parenthesized ident) ++ words ")"
      else return words k
    else if d.isGeneric || d.isPostgresql then return Phrase.ident (← ident)
    else expectedAt "date/time field" l
  | .string .single _ =>
    if d.isGeneric || d.isPostgresql then return Phrase.ident (← ident)
    else expectedAt "date/time field" l
  | _ => expectedAt "date/time field" l

-- The precisions of seconds: one for the whole and one for the fraction.
def secondsPrecision : Parser (List Piece) := do
  if !(← symbol? "(") then return []
  let leading ← natural
  let fraction ← (do
    if ← symbol? "," then return some (← natural) else return none)
  expectSymbol ")"
  let inner := match fraction with
    | some n => toString leading ++ ", " ++ toString n
    | none => toString leading
  return words (" (" ++ inner ++ ")")

def precision : Parser (List Piece) := do
  match ← size? with
  | some n => return words (" " ++ sizeText (some n))
  | none => return []

-- A length of time, behind its keyword.
def interval (r : Rules) : Parser Expr := do
  let d ← dialect
  let value ← (do if d.needsIntervalUnit then r.expr 0 else r.operand)
  let unit := (← token).keyword
  let hasUnit := Words.intervalUnits.contains unit
  if !hasUnit && d.needsIntervalUnit then
    fail "INTERVAL requires a unit after the literal value" (← position?)
  let field ← (do if hasUnit then return words " " ++ (← dateField) else return [])
  let head := words "INTERVAL " ++ Phrase.expr value ++ field
  if unit == "SECOND" then return .phrase (head ++ (← secondsPrecision))
  let leading ← precision
  if !(← keyword? "TO") then return .phrase (head ++ leading)
  let last := (← token).keyword
  let lastField ← dateField
  let fraction ← (do if last == "SECOND" then precision else return [])
  return .phrase (head ++ leading ++ words " TO " ++ lastField ++ fraction)

-- The end of a window's frame. A bound that begins with a string is a length of time.
def frameBound (r : Rules) : Parser (List Piece) := do
  if ← keywords? ["CURRENT", "ROW"] then return words "CURRENT ROW"
  let bound ← (do
    if ← keyword? "UNBOUNDED" then return words "UNBOUNDED"
    match ← token with
    | .string .single _ => return Phrase.expr (← interval r)
    | _ => return Phrase.expr (← r.expr 0))
  if ← keyword? "PRECEDING" then return bound ++ words " PRECEDING"
  else if ← keyword? "FOLLOWING" then return bound ++ words " FOLLOWING"
  else expected "PRECEDING or FOLLOWING"

def frame (r : Rules) : Parser (List Piece) := do
  match ← oneOf? ["ROWS", "RANGE", "GROUPS"] with
  | none => expected "ROWS, RANGE, GROUPS"
  | some units =>
    if ← keyword? "BETWEEN" then
      let start ← frameBound r
      expectKeyword "AND"
      let stop ← frameBound r
      return words (units ++ " BETWEEN ") ++ start ++ words " AND " ++ stop
    else return words (units ++ " ") ++ (← frameBound r)

-- A window behind its opening parenthesis, up to the closing one.
def window (r : Rules) : Parser (List Piece) := do
  let base ← (do
    match ← token with
    | .word _ k _ =>
      if ["PARTITION", "ORDER", "ROWS", "RANGE", "GROUPS"].contains k then return []
      else return Phrase.ident (← ident)
    | _ => return [])
  let partition ← (do
    if ← keywords? ["PARTITION", "BY"] then
      return words "PARTITION BY " ++ exprs (← commaSeparated (r.expr 0))
    else return [])
  let order ← (do
    if ← keywords? ["ORDER", "BY"] then
      return words "ORDER BY " ++ Phrase.orderItems (← orderItems r)
    else return [])
  let frame ← (do
    if ← symbol? ")" then return []
    let pieces ← frame r
    expectSymbol ")"
    return pieces)
  return clauses [base, partition, order, frame]

def overClause (r : Rules) : Parser (List Piece) := do
  if !(← keyword? "OVER") then return []
  if ← symbol? "(" then return words " OVER (" ++ (← window r) ++ words ")"
  else return words " OVER " ++ Phrase.ident (← ident)

-- The condition of an aggregate. Its keyword, parenthesis and `WHERE` are taken one by one, and
-- without all three there is no condition.
def filterClause (r : Rules) : Parser (Option Expr) := do
  if !(← dialect).hasFilterClause then return none
  if !(← keyword? "FILTER") then return none
  if !(← symbol? "(") then return none
  if !(← keyword? "WHERE") then return none
  let e ← r.expr 0
  expectSymbol ")"
  return some e

-- The call of a function, from its opening parenthesis.
def call (r : Rules) (name : Name) : Parser Function := do
  let d ← dialect
  expectSymbol "("
  let first ← arguments r
  let (params, a) ← (do
    if (d.isClickhouse || d.isGeneric) && (← peekSymbol "(") then
      skip
      return (first.pieces, ← arguments r)
    else return ([], first))
  let within ← (do
    if ← keywords? ["WITHIN", "GROUP"] then
      parenthesized do
        expectKeywords ["ORDER", "BY"]
        orderItems r
    else return [])
  let filter ← filterClause r
  let nulls ← (do if a.before.isEmpty then nullTreatment else return none)
  let windowed ← overClause r
  return {
    name := name
    params := params
    args := .list a
    within := within
    filter := filter
    tail := option " " words nulls ++ windowed }

end Parser

end SqlLens.Sql
