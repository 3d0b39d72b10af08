import SqlLens.Sql.Grammar.Query

namespace SqlLens.Sql.Parser

open Phrase (words option flag)

-- What happens to rows that conflict with others.
def conflict? : Parser (Option String) := do
  if ← peekKeyword "OR" then
    let k := (← tokenAt 1).keyword
    if ["REPLACE", "ROLLBACK", "ABORT", "FAIL", "IGNORE"].contains k then
      skip
      skip
      return some ("OR " ++ k)
    else return none
  else if ← keyword? "REPLACE" then return some "OR REPLACE"
  else return none

def returning (r : Rules) : Parser (List Piece) := do
  if ← keyword? "RETURNING" then
    return words " RETURNING " ++ Phrase.items (← commaSeparated (selectItem r))
  else return []

-- What is done with new rows that are there already.
def onInsert (r : Rules) : Parser (List Piece) := do
  if !(← keyword? "ON") then return []
  if ← keyword? "CONFLICT" then
    let target ← (do
      if ← keywords? ["ON", "CONSTRAINT"] then
        return words " ON CONSTRAINT " ++ Phrase.name (← name)
      if ← peekSymbol "(" then return Phrase.parens (Phrase.idents (← identsInParens))
      return [])
    expectKeyword "DO"
    let head := words " ON CONFLICT" ++ target
    if ← keyword? "NOTHING" then return head ++ words " DO NOTHING"
    expectKeywords ["UPDATE", "SET"]
    let sets ← assignments r
    let cond ← after? "WHERE" (r.expr 0)
    return head ++ words " DO UPDATE SET " ++ assignmentPieces sets ++
      option " WHERE " Phrase.expr cond
  else
    expectKeywords ["DUPLICATE", "KEY", "UPDATE"]
    return words " ON DUPLICATE KEY UPDATE " ++ assignmentPieces (← assignments r)

-- The table that rows are put into: a name, or a call in some dialects.
def insertTarget (r : Rules) : Parser (Name × List Piece) := do
  if (← dialect).isClickhouse && (← peekKeyword "FUNCTION") then
    skip
    let f ← call r (← name)
    return ([], words "FUNCTION " ++ Phrase.expr (.call f))
  else return (← name, [])

def insertFormat (r : Rules) : Parser (List Piece) := do
  let name ← ident
  let values ← attempt (commaSeparated (r.expr 0))
  return words "FORMAT " ++ Phrase.ident name ++ option " " Phrase.exprs values

-- Where the new rows come from.
structure InsertBody where
  columns : List Ident := []
  middle  : List Piece := []
  source  : Option Query := none
  values  : List Piece := []

def insertBody (r : Rules) : Parser InsertBody := do
  let d ← dialect
  if ← keywords? ["DEFAULT", "VALUES"] then return {}
  let query := (← peekSymbol "(") && (← tokenAt 1).isKeyword "SELECT"
  let columns ← (do if query then return [] else columnList false d.isMysql ident)
  let partition ← (do
    if !query && (← peekKeyword "PARTITION") then
      skip
      return words "PARTITION (" ++ Phrase.exprs (← parenthesized (commaSeparated (r.expr 0))) ++
        words ") "
    else return [])
  if ← peekAny ["FORMAT", "SETTINGS"] then return { columns := columns, middle := partition }
  if d.isMysql && (← peekKeyword "SET") then
    skip
    return { columns := columns, middle := partition,
             values := words "SET " ++ assignmentPieces (← assignments r) }
  return { columns := columns, middle := partition, source := some (← r.query) }

-- A new row's name, by which later clauses speak of it.
def rowAlias : Parser (List Piece) := do
  let d ← dialect
  if !(d.isMysql || d.isGeneric) then return []
  if !(← keyword? "AS") then return []
  let row ← name
  let columns ← columnList false false ident
  return words " AS " ++ Phrase.name row ++
    (if columns.isEmpty then [] else words " " ++ Phrase.parens (Phrase.idents columns))

def directoryInsert (r : Rules) (overwrite localPath : Bool) : Parser Statement := do
  let path ← stringLiteral
  let format ← (do
    if ← keywords? ["STORED", "AS"] then return some (← ident) else return none)
  let q ← r.query
  return .phrase (words "INSERT" ++ flag overwrite " OVERWRITE" ++ flag localPath " LOCAL" ++
    words (" DIRECTORY '" ++ path ++ "'") ++ option " STORED AS " Phrase.ident format ++
    words " " ++ Phrase.query q)

-- An insertion behind its first keyword, which was `REPLACE` if `replace` is set.
def insert (r : Rules) (replace : Bool) : Parser Statement := do
  let d ← dialect
  let conflict ← conflict?
  let priority ← (do
    if d.isMysql || d.isGeneric then oneOf? ["LOW_PRIORITY", "DELAYED", "HIGH_PRIORITY"]
    else return none)
  let ignore ← (do if d.isMysql || d.isGeneric then keyword? "IGNORE" else return false)
  let overwrite ← keyword? "OVERWRITE"
  let into ← keyword? "INTO"
  let localPath ← keyword? "LOCAL"
  if ← keyword? "DIRECTORY" then return ← directoryInsert r overwrite localPath
  let table ← keyword? "TABLE"
  let (name, target) ← insertTarget r
  let as_ ← (do if d.isPostgresql then after? "AS" ident else return none)
  let body ← insertBody r
  let (settings, format) ← (do
    if d.isClickhouse then
      let settings ← settings? r
      let format ← after? "FORMAT" (insertFormat r)
      return (option "" (fun s => s ++ words " ") settings, format.getD [])
    else return ([], []))
  let row ← rowAlias
  let on ← onInsert r
  let returning ← returning r
  let verb := match conflict with
    | some k => "INSERT " ++ k ++ " INTO"
    | none =>
      (if replace then "REPLACE" else "INSERT") ++ (priority.map (" " ++ ·)).getD "" ++
        (if ignore then " IGNORE" else "") ++ (if overwrite then " OVERWRITE" else "") ++
        (if into then " INTO" else "") ++ (if table then " TABLE" else "")
  return .insert {
    verb := verb
    plain := conflict.isNone && !replace && priority.isNone && !ignore && !overwrite && !table
    table := name
    target := target
    as_ := as_
    columns := body.columns
    middle := body.middle ++ settings
    source := body.source
    values := body.values ++ format
    tail := row ++ on ++ returning }

-- A change of rows, behind its keyword.
def update (r : Rules) : Parser Statement := do
  let d ← dialect
  let conflict ← conflict?
  let table ← r.source
  let before ← after? "FROM" (sources r)
  expectKeyword "SET"
  let sets ← assignments r
  -- Some dialects take the keyword and then know no list behind it.
  let after ← (do
    if before.isNone && (← peekKeyword "FROM") then
      skip
      if d.isMysql || d.isClickhouse then return [] else sources r
    else return [])
  let cond ← after? "WHERE" (r.expr 0)
  let returning ← returning r
  let limit ← after? "LIMIT" (r.expr 0)
  return .update {
    conflict := conflict
    table := table
    fromBefore := before.getD []
    assignments := sets
    fromAfter := after
    cond := cond
    tail := returning ++ option " LIMIT " Phrase.expr limit }

-- A removal of rows, behind its keyword.
def delete (r : Rules) : Parser Statement := do
  let d ← dialect
  let (tables, fromKeyword) ← (do
    if ← keyword? "FROM" then return ([], true)
    if d.isGeneric then return ([], false)
    let tables ← commaSeparated name
    expectKeyword "FROM"
    return (tables, true))
  let from_ ← sources r
  let using_ ← after? "USING" (sources r)
  let cond ← after? "WHERE" (r.expr 0)
  let returning ← returning r
  let order ← (do if ← keywords? ["ORDER", "BY"] then orderItems r else return [])
  let limit ← (do if ← keyword? "LIMIT" then limit? r else return none)
  return .delete {
    tables := tables
    fromKeyword := fromKeyword
    from_ := from_
    using_ := using_.getD []
    cond := cond
    tail := returning ++ Phrase.list " ORDER BY " Phrase.orderItems order ++
      option " LIMIT " Phrase.expr limit }

-- What is done with a matched or unmatched row.
def mergeClause (r : Rules) : Parser (Option (List Piece)) := do
  let d ← dialect
  if !(← keyword? "WHEN") then return none
  let negated ← keyword? "NOT"
  expectKeyword "MATCHED"
  let kind ← (do
    if !negated then return "MATCHED"
    if ← keywords? ["BY", "SOURCE"] then return "NOT MATCHED BY SOURCE"
    if ← keywords? ["BY", "TARGET"] then return "NOT MATCHED BY TARGET"
    return "NOT MATCHED")
  let fresh := kind == "NOT MATCHED" || kind == "NOT MATCHED BY TARGET"
  let cond ← after? "AND" (r.expr 0)
  expectKeyword "THEN"
  let l ← lexeme
  let refuse (k : String) : Parser (List Piece) :=
    fail (k ++ " is not allowed in a " ++ kind ++ " merge clause") (some l.start)
  let action ← (do
    match ← oneOf? ["UPDATE", "INSERT", "DELETE"] with
    | some "UPDATE" =>
      if fresh then refuse "UPDATE"
      else
        expectKeyword "SET"
        return words "UPDATE SET " ++ assignmentPieces (← assignments r)
    | some "DELETE" => if fresh then refuse "DELETE" else return words "DELETE"
    | some _ =>
      if !fresh then refuse "INSERT"
      else
        let columns ← columnList false d.isMysql ident
        let head := words "INSERT " ++
          (if columns.isEmpty then [] else Phrase.parens (Phrase.idents columns) ++ words " ")
        if d.isGeneric && (← peekKeyword "ROW") then
          skip
          return head ++ words "ROW"
        expectKeyword "VALUES"
        return head ++ words "VALUES " ++ (← valueRows r d.isMysql)
    | none => fail "expected UPDATE, DELETE or INSERT in merge clause" (← position?))
  return some (words (" WHEN " ++ kind) ++ option " AND " Phrase.expr cond ++ words " THEN " ++
    action)

def merge (r : Rules) : Parser Statement := do
  let into ← keyword? "INTO"
  let table ← r.factor
  expectKeyword "USING"
  let source ← r.factor
  expectKeyword "ON"
  let on ← r.expr 0
  let clauses ← many (mergeClause r)
  let output ← (do
    match ← oneOf? ["OUTPUT", "RETURNING"] with
    | some k => return words (" " ++ k ++ " ") ++ Phrase.items (← commaSeparated (selectItem r))
    | none => return [])
  let clauses := if clauses.isEmpty then words " " else clauses.flatten
  return .phrase (words ("MERGE" ++ (if into then " INTO " else " ")) ++ Phrase.source table ++
    words " USING " ++ Phrase.source source ++ words " ON " ++ Phrase.expr on ++ clauses ++
    output)

-- A statement that changes rows.
def change (r : Rules) : Parser Statement := do
  let l ← next
  match l.token.keyword with
  | "INSERT" => insert r false
  | "UPDATE" => update r
  | "DELETE" => delete r
  | "MERGE" => merge r
  | _ => expectedAt "an SQL statement" l

end SqlLens.Sql.Parser
