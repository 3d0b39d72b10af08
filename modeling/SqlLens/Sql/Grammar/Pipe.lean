import SqlLens.Sql.Grammar.Select

namespace SqlLens.Sql.Parser

open Phrase (words option)

def assignment (r : Rules) : Parser Assignment := do
  let target ← (do
    if ← symbol? "(" then
      let names ← commaSeparated name
      expectSymbol ")"
      return AssignmentTarget.tuple names
    else return .name (← name))
  expectSymbol "="
  return ⟨target, ← r.expr 0⟩

def assignments (r : Rules) : Parser (List Assignment) := commaSeparated (assignment r)

def setQuantifier : Parser Quantifier := do
  if ← keywords? ["DISTINCT", "BY", "NAME"] then return .distinctByName
  else if ← keywords? ["BY", "NAME"] then return .byName
  else if ← keyword? "ALL" then
    if ← keywords? ["BY", "NAME"] then return .allByName else return .all
  else if ← keyword? "DISTINCT" then return .distinct
  else return .none

-- An expression with a name and a place in the order.
def orderedItem (r : Rules) : Parser (List Piece) := do
  let e ← r.expr 0
  let as_ ← columnAlias?
  let asc ← sortDirection
  let nullsFirst ← nullsPlace
  return Phrase.expr e ++ option " AS " Phrase.ident as_ ++ words (orderSuffix asc nullsFirst)

def aggregatePipe (r : Rules) : Parser (List Piece) := do
  let items ← (do if ← peekKeyword "GROUP" then return [] else commaSeparated (orderedItem r))
  let groups ← (do
    if ← keywords? ["GROUP", "BY"] then commaSeparated (orderedItem r) else return [])
  return words "AGGREGATE" ++ Phrase.list " " Phrase.commas items ++
    Phrase.list " GROUP BY " Phrase.commas groups

-- A set operation with queries in parentheses. Only a union may keep repeated rows.
def setPipe (r : Rules) (k : String) : Parser (List Piece) := do
  let quantifier ← setQuantifier
  if k != "UNION" && quantifier != .distinct && quantifier != .distinctByName then
    fail (k ++ " pipe operator requires DISTINCT modifier")
  let queries ← commaSeparated do
    return Phrase.parens (Phrase.query (← parenthesized r.query))
  return words (k ++ quantifier.toText ++ " ") ++ Phrase.commas queries

def renamePipe : Parser (List Piece) := do
  let items ← commaSeparated do
    let old ← ident
    let _ ← keyword? "AS"
    return Phrase.ident old ++ words " AS " ++ Phrase.ident (← ident)
  return words "RENAME " ++ Phrase.commas items

def callPipe (r : Rules) : Parser (List Piece) := do
  let f ← call r (← name)
  return words "CALL " ++ Phrase.expr (.call f) ++ option " AS " Phrase.ident (← columnAlias?)

-- A join whose left side is what the rows come from.
def joinPipe (r : Rules) : Parser (List Piece) := do
  match ← join? r (.phrase []) with
  | some s => return Phrase.source s
  | none => expected "a join"

def pipe (r : Rules) : Parser (List Piece) := do
  if ← peekAny ["JOIN", "INNER", "LEFT", "RIGHT", "FULL", "CROSS"] then
    return words " |>" ++ (← joinPipe r)
  let step ← (do
    match ← expectOneOf ["SELECT", "EXTEND", "SET", "DROP", "AS", "WHERE", "LIMIT", "AGGREGATE",
      "ORDER", "RENAME", "UNION", "INTERSECT", "EXCEPT", "CALL"] with
    | "SET" => return words "SET " ++ assignmentPieces (← assignments r)
    | "DROP" => return words "DROP " ++ Phrase.idents (← commaSeparated ident)
    | "AS" => return words "AS " ++ Phrase.ident (← ident)
    | "WHERE" => return words "WHERE " ++ Phrase.expr (← r.expr 0)
    | "LIMIT" =>
      let limit ← r.expr 0
      return words "LIMIT " ++ Phrase.expr limit ++
        option " OFFSET " Phrase.expr (← after? "OFFSET" (r.expr 0))
    | "AGGREGATE" => aggregatePipe r
    | "ORDER" =>
      expectKeyword "BY"
      return words "ORDER BY " ++ Phrase.orderItems (← orderItems r)
    | "RENAME" => renamePipe
    | "CALL" => callPipe r
    | k =>
      if k == "SELECT" || k == "EXTEND" then
        return words (k ++ " ") ++ Phrase.items (← commaSeparated (selectItem r))
      else setPipe r k)
  return words " |> " ++ step

def pipes (r : Rules) : Parser (List Piece) := do
  if !(← dialect).hasPipes then return []
  let steps ← many do if ← symbol? "|>" then return some (← pipe r) else return none
  return steps.flatten

end SqlLens.Sql.Parser
