import SqlLens.Sql.Grammar.Source

namespace SqlLens.Sql.Parser

open Phrase (words option flag)

-- What is left out of `*`, and what is put in other places of it.
def starOptions (r : Rules) : Parser (List Piece) := do
  let d ← dialect
  let ilike ← (do
    if d.isGeneric && (← peekKeyword "ILIKE") then
      skip
      let l ← next
      match l.token with
      | .string .single text => return words (" ILIKE " ++ enclosed '\x27' text)
      | _ => expectedAt "ilike pattern" l
    else return [])
  let exclude ← (do
    if ilike.isEmpty && d.isGeneric && (← peekKeyword "EXCLUDE") then
      skip
      if ← peekSymbol "(" then
        return words " EXCLUDE (" ++ Phrase.idents (← identsInParens) ++ words ")"
      else return words " EXCLUDE " ++ Phrase.ident (← ident)
    else return [])
  let except ← (do
    if (d.isGeneric || d.isClickhouse) && (← peekKeyword "EXCEPT") then
      skip
      if ← peekSymbol "(" then
        return words " EXCEPT (" ++ Phrase.idents (← identsInParens) ++ words ")"
      else return words " EXCEPT (" ++ Phrase.ident (← ident) ++ words ")"
    else return [])
  let replace ← (do
    if (d.isGeneric || d.isClickhouse) && (← peekKeyword "REPLACE") then
      skip
      if !(← peekSymbol "(") then expected "( after REPLACE but"
      let items ← parenthesized (commaSeparated do
        let e ← r.expr 0
        let as ← keyword? "AS"
        let id ← ident
        return Phrase.expr e ++ words (if as then " AS " else " ") ++ Phrase.ident id)
      return words " REPLACE (" ++ Phrase.commas items ++ words ")"
    else return [])
  let rename ← (do
    if d.isGeneric && (← peekKeyword "RENAME") then
      skip
      let item : Parser (List Piece) := do
        let id ← ident
        expectKeyword "AS"
        return Phrase.ident id ++ words " AS " ++ Phrase.ident (← ident)
      if ← peekSymbol "(" then
        return words " RENAME (" ++ Phrase.commas (← parenthesized (commaSeparated item)) ++
          words ")"
      else return words " RENAME " ++ (← item)
    else return [])
  return ilike ++ exclude ++ except ++ replace ++ rename

def selectItem (r : Rules) : Parser Item := do
  match ← starOrExpr r with
  | .star _ => return .star (← starOptions r)
  | .phrase pieces => return .phrase (pieces ++ (← starOptions r))
  | .aliased e id => return .aliased e id
  | .expr e =>
    if let .ident ⟨text, none⟩ := e then
      if Text.asciiLower text == "from" then
        fail ("Expected an expression, found: " ++ text) (← position?)
    match ← columnAlias? with
    | some id => return .aliased e id
    | none => return .expr e

-- Whether what comes next ends a select list behind a comma.
def endsItems : Parser Bool := do
  match ← token with
  | .word _ k none => return Words.columnStops.contains k
  | .symbol s => return [")", ";", "]", "\x7d"].contains s
  | .eof => return true
  | _ => return false

def selectItems (r : Rules) : Parser (List Item) := do
  let trailing := (← dialect).allowsTrailingComma
  separated (do
    if ← symbol? "," then return !(trailing && (← endsItems)) else return false) (selectItem r)

def top (r : Rules) : Parser (List Piece) := do
  if !(← keyword? "TOP") then return []
  let quantity ← (do
    if ← peekSymbol "(" then return Phrase.parens (Phrase.expr (← parenthesized (r.expr 0)))
    else return words (toString (← natural)))
  let percent ← keyword? "PERCENT"
  let ties ← keywords? ["WITH", "TIES"]
  return words " TOP " ++ quantity ++ flag percent " PERCENT" ++ flag ties " WITH TIES"

-- `ALL` and `DISTINCT`, with the expressions by which rows are told apart.
def distinctness (r : Rules) : Parser Distinct := do
  let start ← position?
  let all ← keyword? "ALL"
  if !(← keyword? "DISTINCT") then return .none
  if all then fail "Cannot specify both ALL and DISTINCT" start
  if !(← keyword? "ON") then return .plain
  return .on (← parenthesized (commaSeparated0 (r.expr 0) ")"))

def selectInto : Parser (List Piece) := do
  if !(← keyword? "INTO") then return []
  let temporary ← oneOf? ["TEMP", "TEMPORARY"]
  let unlogged ← keyword? "UNLOGGED"
  let table ← keyword? "TABLE"
  return words " INTO" ++ flag temporary.isSome " TEMPORARY" ++ flag unlogged " UNLOGGED" ++
    flag table " TABLE" ++ words " " ++ Phrase.name (← name)

def lateralView (r : Rules) : Parser (Option (List Piece)) := do
  if !(← keywords? ["LATERAL", "VIEW"]) then return none
  let outer ← keyword? "OUTER"
  let e ← r.expr 0
  let name ← name
  let stops := ["WHERE", "GROUP", "CLUSTER", "HAVING", "LATERAL"]
  let columns ← commaSeparated (aliasBut? stops)
  return some (words " LATERAL VIEW" ++ flag outer " OUTER" ++ words " " ++ Phrase.expr e ++
    words " " ++ Phrase.name name ++
    Phrase.list " AS " Phrase.idents (columns.filterMap id))

-- Expressions in parentheses; a single one may stand without them.
def tuple (r : Rules) (liftSingle : Bool) : Parser (List Expr) := do
  if liftSingle && !(← peekSymbol "(") then return [← r.expr 0]
  parenthesized (commaSeparated0 (r.expr 0) ")")

def tuplePieces (liftSingle : Bool) (es : List Expr) : List Piece :=
  match es with
  | [e] => if liftSingle then Phrase.expr e else Phrase.parens (Phrase.expr e)
  | es => Phrase.parens (Phrase.exprs es)

-- Sets of columns by which rows are grouped.
def groupSets (r : Rules) (k : String) (liftSingle : Bool) : Parser (List Piece) := do
  let sets ← parenthesized (commaSeparated (tuple r liftSingle))
  return words (k ++ " (") ++ Phrase.commas (sets.map (tuplePieces (k != "GROUPING SETS"))) ++
    words ")"

def groupItem (r : Rules) : Parser Expr := do
  if !(← dialect).hasGroupBySets then return ← r.expr 0
  if ← keywords? ["GROUPING", "SETS"] then return .phrase (← groupSets r "GROUPING SETS" false)
  if ← keyword? "CUBE" then return .phrase (← groupSets r "CUBE" true)
  if ← keyword? "ROLLUP" then return .phrase (← groupSets r "ROLLUP" true)
  if ← symbols? ["(", ")"] then return .tuple []
  r.expr 0

-- What is grouped by, whether it is everything, and modifiers.
structure Grouping where
  all       : Bool := false
  exprs     : List Expr := []
  modifiers : List Piece := []

def groupBy (r : Rules) : Parser Grouping := do
  if !(← keywords? ["GROUP", "BY"]) then return {}
  let all ← keyword? "ALL"
  let exprs ← (do if all then return [] else commaSeparated (groupItem r))
  let modifiers ← (do
    if !(← dialect).hasGroupByModifiers then return []
    many do
      if ← keyword? "WITH" then
        return some (words (" WITH " ++ (← expectOneOf ["ROLLUP", "CUBE", "TOTALS"])))
      else return none)
  let sets ← (do
    if ← keywords? ["GROUPING", "SETS"] then
      return words " " ++ (← groupSets r "GROUPING SETS" true)
    else return [])
  return ⟨all, exprs, modifiers.flatten ++ sets⟩

def namedWindow (r : Rules) : Parser (List Piece) := do
  let name ← ident
  expectKeyword "AS"
  let head := Phrase.ident name ++ words " AS "
  if ← symbol? "(" then return head ++ words "(" ++ (← window r) ++ words ")"
  else if (← dialect).isGeneric then return head ++ Phrase.ident (← ident)
  else expected "("

def windows (r : Rules) : Parser (List Piece) := do
  if ← keyword? "WINDOW" then
    return words " WINDOW " ++ Phrase.commas (← commaSeparated (namedWindow r))
  else return []

def qualify (r : Rules) : Parser (List Piece) := do
  return option " QUALIFY " Phrase.expr (← after? "QUALIFY" (r.expr 0))

-- Windows and their condition, in the order in which they stand.
def windowClauses (r : Rules) : Parser (List Piece) := do
  if ← peekKeyword "WINDOW" then
    let windows ← windows r
    return windows ++ (← qualify r)
  else
    let qualify ← qualify r
    if qualify.isEmpty then return [] else return qualify ++ (← windows r)

-- Walks through a hierarchy of rows.
def connectBy (r : Rules) : Parser (List Piece) := do
  if !(← dialect).hasConnectBy then return []
  if !(← peekAny ["START", "CONNECT"]) then return []
  let steps := inMode .connectBy (commaSeparated (r.expr 0))
  let (cond, steps) ← (do
    if ← keywords? ["CONNECT", "BY"] then
      let steps ← steps
      expectKeywords ["START", "WITH"]
      return (← r.expr 0, steps)
    else
      expectKeywords ["START", "WITH"]
      let cond ← r.expr 0
      expectKeywords ["CONNECT", "BY"]
      return (cond, ← steps))
  return words " START WITH " ++ Phrase.expr cond ++ words " CONNECT BY " ++ Phrase.exprs steps

-- A list behind two keywords.
def byClause (k : String) (items : Parser (List Piece)) : Parser (List Piece) := do
  if ← keywords? [k, "BY"] then return words (" " ++ k ++ " BY ") ++ (← items) else return []

def select (r : Rules) : Parser Select := do
  let d ← dialect
  let early ← (do
    if d.allowsFromFirst && (← peekKeyword "FROM") then
      skip
      return some (← sources r)
    else return none)
  if early.isSome && !(← peekKeyword "SELECT") then
    return { fromFirst := some false, distinct := .none, from_ := early.getD [] }
  expectKeyword "SELECT"
  let distinct ← distinctness r
  let top ← top r
  let items ← (do
    if d.allowsEmptyProjection && (← peekKeyword "FROM") then return [] else selectItems r)
  let into ← selectInto
  let from_ ← (do
    match early with
    | some sources => return sources
    | none => if ← keyword? "FROM" then sources r else return [])
  let views ← many (lateralView r)
  let prewhere ← (do
    if d.isClickhouse || d.isGeneric then after? "PREWHERE" (r.expr 0) else return none)
  let cond ← after? "WHERE" (r.expr 0)
  let group ← groupBy r
  let cluster ← byClause "CLUSTER" do return Phrase.exprs (← commaSeparated (r.expr 0))
  let distribute ← byClause "DISTRIBUTE" do return Phrase.exprs (← commaSeparated (r.expr 0))
  let sort ← byClause "SORT" do return Phrase.orderItems (← orderItems r)
  let having ← after? "HAVING" (r.expr 0)
  let windows ← windowClauses r
  let connect ← connectBy r
  return {
    fromFirst := early.map fun _ => true
    distinct := distinct
    top := top
    items := items
    afterItems := into
    from_ := from_
    afterFrom := views.flatten ++ option " PREWHERE " Phrase.expr prewhere
    cond := cond
    groupAll := group.all
    groups := group.exprs
    modifiers := group.modifiers
    afterGroup := cluster ++ distribute ++ sort
    having := having
    tail := windows ++ connect }

end SqlLens.Sql.Parser
