import SqlLens.Sql.Grammar.Pipe

namespace SqlLens.Sql

-- How tightly a set operation binds.
def SetOperator.strength : SetOperator → Nat
  | .intersect => 20
  | _ => 10

namespace Parser

open Phrase (words option flag)

def cte (r : Rules) : Parser Cte := do
  let d ← dialect
  let name ← ident
  let columns ← (do if ← peekKeyword "AS" then return [] else aliasColumns r)
  expectKeyword "AS"
  let materialized ← (do
    if !d.isPostgresql then return none
    if ← keyword? "MATERIALIZED" then return some "MATERIALIZED"
    if ← keywords? ["NOT", "MATERIALIZED"] then return some "NOT MATERIALIZED"
    return none)
  let q ← parenthesized r.query
  let from_ ← after? "FROM" ident
  return ⟨name, columns, materialized, q, from_⟩

def setOperator? : Parser (Option SetOperator) := do
  match (← token).keyword with
  | "UNION" => return some .union
  | "EXCEPT" => return some .except
  | "INTERSECT" => return some .intersect
  | "MINUS" => return some .minus
  | _ => return none

-- A table that stands for all of its rows. Two tokens behind its name are taken in any case.
def tableRows : Parser Body := do
  let first ← next
  let second ← next
  let third ← next
  match first.token, second.token, third.token with
  | .word schema _ _, .symbol ".", .word table _ _ =>
    return .phrase (words ("TABLE " ++ schema ++ "." ++ table))
  | .word .., .symbol ".", _ => expectedAt "Table name" third
  | _, .symbol ".", _ => expectedAt "Schema name" first
  | .word table _ _, _, _ => return .phrase (words ("TABLE " ++ table))
  | _, _, _ => expectedAt "Table name" first

-- A body without set operations.
def simpleBody (r : Rules) : Parser Body := do
  let d ← dialect
  let rows (k : String) : Parser Body := do
    return .phrase (words (k ++ " ") ++ (← valueRows r d.isMysql))
  if (← peekKeyword "SELECT") || d.allowsFromFirst && (← peekKeyword "FROM") then
    return .select (← select r)
  else if ← peekSymbol "(" then return .query (← parenthesized r.query)
  else if ← keyword? "VALUES" then rows "VALUES"
  else if ← keyword? "VALUE" then rows "VALUE"
  else if ← keyword? "TABLE" then tableRows
  else expected "SELECT, VALUES, or a subquery in the query body"

-- A body up to the first set operation that binds no more tightly than `strength`.
def body (r : Rules) (strength : Nat) : Parser Body := do
  repeated (fun left => do
    match ← setOperator? with
    | none => return none
    | some op =>
      if strength ≥ op.strength then return none
      skip
      let quantifier ← setQuantifier
      return some (.setOperation op quantifier left (← r.body (op.strength))))
    (← simpleBody r)

def interpolation (r : Rules) : Parser (List Piece) := do
  let d ← dialect
  if !(d.isClickhouse || d.isGeneric) then return []
  if !(← keyword? "INTERPOLATE") then return []
  if !(← peekSymbol "(") then return words " INTERPOLATE"
  let items ← parenthesized (commaSeparated0 (do
    let column ← ident
    return Phrase.ident column ++ option " AS " Phrase.expr (← after? "AS" (r.expr 0))) ")")
  return words " INTERPOLATE (" ++ Phrase.commas items ++ words ")"

-- The order of a query, and how it interpolates missing rows.
def ordering (r : Rules) : Parser (OrderBy × List Piece) := do
  if !(← keywords? ["ORDER", "BY"]) then return (.items [], [])
  if (← dialect).hasOrderByAll && (← peekKeyword "ALL") then
    skip
    let asc ← sortDirection
    let nullsFirst ← nullsPlace
    return (.all (words ("ORDER BY ALL" ++ orderSuffix asc nullsFirst)), [])
  let items ← orderItems r
  return (.items items, ← interpolation r)

def offsetRows : Parser Rows := do
  if ← keyword? "ROW" then return .row
  else if ← keyword? "ROWS" then return .rows
  else return .none

def offset? (r : Rules) : Parser (Option (Expr × Rows)) :=
  after? "OFFSET" do
    let e ← r.expr 0
    return (e, ← offsetRows)

-- `LIMIT ALL` is no limit.
def limit? (r : Rules) : Parser (Option Expr) := do
  if ← keyword? "ALL" then return none else return some (← r.expr 0)

def limits (r : Rules) : Parser Limits := do
  let d ← dialect
  let early ← offset? r
  let plain (limit : Option Expr) (found : Option (Expr × Rows)) (by_ : List Expr) : Limits :=
    .plain limit (found.map (·.1)) ((found.map (·.2)).getD .none) by_
  if !(← keyword? "LIMIT") then return plain none early []
  let limit ← limit? r
  if let some first := limit then
    if d.hasLimitComma && early.isNone && (← peekSymbol ",") then
      skip
      return .comma first (← r.expr 0)
  let by_ ← (do
    if (d.isClickhouse || d.isGeneric) && (← peekKeyword "BY") then
      skip
      commaSeparated (r.expr 0)
    else return [])
  let found ← (do if early.isSome then return early else offset? r)
  return plain limit found by_

def fetch : Parser (List Piece) := do
  if !(← keyword? "FETCH") then return []
  let _ ← oneOf? ["FIRST", "NEXT"]
  let quantity ← (do
    if (← oneOf? ["ROW", "ROWS"]).isSome then return words " ROWS"
    let value ← literal
    let percent ← keyword? "PERCENT"
    let _ ← oneOf? ["ROW", "ROWS"]
    return words " " ++ Phrase.literal value ++ flag percent " PERCENT" ++ words " ROWS")
  let ties ← (do
    if ← keyword? "ONLY" then return false else keywords? ["WITH", "TIES"])
  return words " FETCH FIRST" ++ quantity ++ words (if ties then " WITH TIES" else " ONLY")

-- A name in quotes between parentheses.
def quotedArgument : Parser String := do
  let text ← parenthesized stringLiteral
  return "('" ++ text ++ "')"

def forXml : Parser (List Piece) := do
  let element ← (do
    match ← oneOf? ["RAW", "AUTO", "EXPLICIT", "PATH"] with
    | none => fail "Expected FOR XML [RAW | AUTO | EXPLICIT | PATH ]"
    | some k =>
      if (k == "RAW" || k == "PATH") && (← peekSymbol "(") then return k ++ (← quotedArgument)
      else return k)
  let options ← many do
    if !(← symbol? ",") then return none
    if ← keyword? "ELEMENTS" then return some (3, ", ELEMENTS")
    if ← keyword? "BINARY" then
      expectKeyword "BASE64"
      return some (0, ", BINARY BASE64")
    if ← keyword? "ROOT" then return some (2, ", ROOT" ++ (← quotedArgument))
    if ← keyword? "TYPE" then return some (1, ", TYPE")
    return some (4, "")
  -- Options stand in a fixed order, and the last one of a kind counts.
  let pick (n : Nat) := ((options.filter (·.1 == n)).getLast?.map (·.2)).getD ""
  return words (" FOR XML " ++ element ++ pick 0 ++ pick 1 ++ pick 2 ++ pick 3)

def forJson : Parser (List Piece) := do
  let element ← (do
    match ← oneOf? ["AUTO", "PATH"] with
    | none => fail "Expected FOR JSON [AUTO | PATH ]"
    | some k => return k)
  let options ← many do
    if !(← symbol? ",") then return none
    if ← keyword? "ROOT" then return some (0, ", ROOT" ++ (← quotedArgument))
    if ← keyword? "INCLUDE_NULL_VALUES" then return some (1, ", INCLUDE_NULL_VALUES")
    if ← keyword? "WITHOUT_ARRAY_WRAPPER" then return some (2, ", WITHOUT_ARRAY_WRAPPER")
    return some (3, "")
  let pick (n : Nat) := ((options.filter (·.1 == n)).getLast?.map (·.2)).getD ""
  return words (" FOR JSON " ++ element ++ pick 0 ++ pick 1 ++ pick 2)

def lock : Parser (List Piece) := do
  let kind ← expectOneOf ["UPDATE", "SHARE"]
  let tables ← after? "OF" name
  let wait ← (do
    if ← keyword? "NOWAIT" then return " NOWAIT"
    if ← keywords? ["SKIP", "LOCKED"] then return " SKIP LOCKED"
    return "")
  return words (" FOR " ++ kind) ++ option " OF " Phrase.name tables ++ words wait

-- Locks, and the form of the result behind them.
def forClauses : Parser (List Piece) := do
  let (pieces, _) ← repeated (fun ((pieces, done) : List Piece × Bool) => do
    if done || !(← keyword? "FOR") then return none
    if ← keyword? "XML" then return some (pieces ++ (← forXml), true)
    if ← keyword? "JSON" then return some (pieces ++ (← forJson), true)
    if ← keyword? "BROWSE" then return some (pieces ++ words " FOR BROWSE", true)
    return some (pieces ++ (← lock), false)) ([], false)
  return pieces

def formatClause : Parser (List Piece) := do
  let d ← dialect
  if !(d.isClickhouse || d.isGeneric) then return []
  if !(← keyword? "FORMAT") then return []
  if ← keyword? "NULL" then return words " FORMAT NULL"
  return words " FORMAT " ++ Phrase.ident (← ident)

-- What stands behind the body of a query.
def queryTail (r : Rules) (recursive : Bool) (ctes : List Cte) (body : Body) : Parser Query := do
  let (order, interpolate) ← ordering r
  let limits ← limits r
  let settings ← settings? r
  let fetch ← fetch
  let locks ← forClauses
  let format ← formatClause
  let pipes ← pipes r
  return {
    recursive := recursive
    ctes := ctes
    body := body
    order := order
    interpolate := interpolate
    limits := limits
    rest := option " " id settings ++ fetch ++ locks ++ format ++ pipes }

-- A query. A statement that changes rows may stand in place of the body.
def query (r : Rules) : Parser Query := deeper do
  let (recursive, ctes) ← (do
    if ← keyword? "WITH" then
      let recursive ← keyword? "RECURSIVE"
      return (recursive, ← commaSeparated (cte r))
    else return (false, []))
  if ← peekAny ["INSERT", "UPDATE", "DELETE", "MERGE"] then
    let s ← r.change
    return { Query.ofBody (.phrase s.pieces) with recursive := recursive, ctes := ctes }
  queryTail r recursive ctes (← r.body 0)

end Parser

end SqlLens.Sql
