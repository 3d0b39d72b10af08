import SqlLens.Sql.Grammar.RowPattern

namespace SqlLens.Sql

namespace Source

def isNested : Source → Bool
  | .nested .. => true
  | _ => false

-- A source with an alias given from outside, unless it has one.
def withAlias (a : Alias) : Source → Except Alias Source
  | .table name middle none after => .ok (.table name middle (some a) after)
  | .table _ _ (some inner) _ => .error inner
  | .derived lateral q none => .ok (.derived lateral q (some a))
  | .derived _ _ (some inner) => .error inner
  | .nested s none => .ok (.nested s (some a))
  | .nested _ (some inner) => .error inner
  | s => .ok (.phrase (Phrase.source s ++ Phrase.words (" " ++ a.toText)))

end Source

namespace Parser

open Phrase (words option flag)

-- Settings of a query, by name.
def settings? (r : Rules) : Parser (Option (List Piece)) := do
  let d ← dialect
  if !(d.isClickhouse || d.isGeneric) then return none
  after? "SETTINGS" do
    let items ← commaSeparated do
      let key ← ident
      expectSymbol "="
      return Phrase.ident key ++ words " = " ++ Phrase.expr (← r.expr 0)
    return words "SETTINGS " ++ Phrase.commas items

-- The arguments of a table function behind the opening parenthesis. Settings may end them.
def tableArguments (r : Rules) : Parser (List Piece) := do
  if ← symbol? ")" then return words "()"
  let item : Parser (Bool × List Piece) := do
    match ← settings? r with
    | some pieces => return (true, pieces)
    | none => return (false, Phrase.item (← argument r))
  let (last, first) ← item
  let (_, items) ← repeated (fun ((last, items) : Bool × List (List Piece)) => do
    if last then return none
    if ← symbol? "," then
      let (last, more) ← item
      return some (last, items ++ [more])
    else return none) (last, [first])
  expectSymbol ")"
  return Phrase.parens (Phrase.commas items)

-- Arguments behind the opening parenthesis.
def plainArguments (r : Rules) : Parser (List Piece) := do
  if ← symbol? ")" then return words "()"
  let items ← commaSeparated (argument r)
  expectSymbol ")"
  return Phrase.parens (Phrase.items items)

def sampleSeed : Parser (List Piece) := do
  match ← oneOf? ["REPEATABLE", "SEED"] with
  | some k =>
    let value ← parenthesized numberLiteral
    return words (" " ++ k ++ " (") ++ Phrase.literal value ++ words ")"
  | none => return []

-- A part of a table, chosen at random.
def sample (r : Rules) : Parser (List Piece) := do
  match ← oneOf? ["TABLESAMPLE", "SAMPLE"] with
  | none => return []
  | some k =>
    let method ← oneOf? ["BERNOULLI", "ROW", "SYSTEM", "BLOCK"]
    let opened ← symbol? "("
    let (quantity, bucket) ← (do
      if opened && (← peekKeyword "BUCKET") then
        skip
        let n ← numberLiteral
        expectKeywords ["OUT", "OF"]
        let total ← numberLiteral
        let on ← after? "ON" (r.expr 0)
        return ([], words " (BUCKET " ++ Phrase.literal n ++ words " OUT OF " ++
          Phrase.literal total ++ option " ON " Phrase.expr on ++ words ")")
      else
        let value ← (do
          match ← attempt (r.expr 0) with
          | some e => return Phrase.expr e
          | none =>
            match (← next).token with
            | .word text _ _ => return words text
            | _ => fail "Expecting number or byte length e.g. 100M" (← position?))
        let unit ← oneOf? ["ROWS", "PERCENT"]
        let value := value ++ option " " words unit
        return (words " " ++ (if opened then Phrase.parens value else value), []))
    if opened then expectSymbol ")"
    let seed ← sampleSeed
    let offset ← after? "OFFSET" (r.expr 0)
    return words (" " ++ k) ++ option " " words method ++ quantity ++ seed ++ bucket ++
      option " OFFSET " Phrase.expr offset

-- Advice on which indexes to use.
def indexHints : Parser (List Piece) := do
  let hints ← many do
    match ← oneOf? ["USE", "IGNORE", "FORCE"] with
    | none => return none
    | some verb =>
      match ← oneOf? ["INDEX", "KEY"] with
      | none => expected "expected to match index type INDEX or KEY, found"
      | some kind =>
        let scope ← (do
          if !(← keyword? "FOR") then return ""
          if ← keyword? "JOIN" then return "FOR JOIN "
          if ← keywords? ["ORDER", "BY"] then return "FOR ORDER BY "
          if ← keywords? ["GROUP", "BY"] then return "FOR GROUP BY "
          expected "expected to match FOR/ORDER BY/GROUP BY table hint in for clause")
        let names ← parenthesized (commaSeparated0 ident ")")
        return some (words (" " ++ verb ++ " " ++ kind ++ " " ++ scope ++ "(") ++
          Phrase.idents names ++ words ")")
  return hints.flatten

def exprWithAlias (r : Rules) : Parser (List Piece) := do
  let e ← r.expr 0
  return Phrase.expr e ++ option " AS " Phrase.ident (← after? "AS" ident)

def aggregateWithAlias (r : Rules) : Parser (List Piece) := do
  let l ← next
  match l.token with
  | .word text _ _ =>
    let f ← call r [⟨text, none⟩]
    return Phrase.expr (.call f) ++ option " AS " Phrase.ident (← after? "AS" ident)
  | _ => expected "a function identifier"

-- Rows turned into columns.
def pivot (r : Rules) (s : Source) : Parser Source := do
  expectSymbol "("
  let aggregates ← commaSeparated (aggregateWithAlias r)
  expectKeyword "FOR"
  let between ← strengthOf .between
  let columns ← (do
    if ← peekSymbol "(" then columnList true false (r.expr between)
    else return [← r.expr between])
  expectKeyword "IN"
  expectSymbol "("
  let values ← (do
    if ← keyword? "ANY" then
      let order ← (do if ← keywords? ["ORDER", "BY"] then orderItems r else return [])
      return words "ANY" ++ Phrase.list " ORDER BY " Phrase.orderItems order
    if ← peekQuery then return Phrase.query (← r.query)
    return Phrase.commas (← commaSeparated (exprWithAlias r)))
  expectSymbol ")"
  let otherwise ← (do
    if ← keywords? ["DEFAULT", "ON", "NULL"] then return some (← parenthesized (r.expr 0))
    else return none)
  expectSymbol ")"
  let as_ ← tableAlias? r
  let columns := match columns with
    | [e] => Phrase.expr e
    | es => Phrase.parens (Phrase.exprs es)
  return .phrase (Phrase.source s ++ words " PIVOT(" ++ Phrase.commas aggregates ++
    words " FOR " ++ columns ++ words " IN (" ++ values ++ words ")" ++
    (match otherwise with
      | some e => words " DEFAULT ON NULL (" ++ Phrase.expr e ++ words ")"
      | none => []) ++
    words ")" ++ aliasPieces as_)

-- Columns turned into rows.
def unpivot (r : Rules) (s : Source) : Parser Source := do
  let nulls ← (do
    match ← oneOf? ["INCLUDE", "EXCLUDE"] with
    | some k =>
      expectKeyword "NULLS"
      return " " ++ k ++ " NULLS "
    | none => return "")
  expectSymbol "("
  let value ← r.expr 0
  expectKeyword "FOR"
  let name ← ident
  expectKeyword "IN"
  let columns ← columnList true false (exprWithAlias r)
  expectSymbol ")"
  let as_ ← tableAlias? r
  return .phrase (Phrase.source s ++ words (" UNPIVOT" ++ nulls ++ "(") ++ Phrase.expr value ++
    words " FOR " ++ Phrase.ident name ++ words " IN (" ++ Phrase.commas columns ++ words "))" ++
    aliasPieces as_)

def pivots (r : Rules) (s : Source) : Parser Source :=
  repeated (fun s => do
    match ← oneOf? ["PIVOT", "UNPIVOT"] with
    | some "PIVOT" => return some (← pivot r s)
    | some _ => return some (← unpivot r s)
    | none => return none) s

-- A query in parentheses, behind the opening one.
def derived (r : Rules) (lateral : Bool) : Parser Source := do
  let q ← r.query
  expectSymbol ")"
  return .derived lateral q (← tableAlias? r)

-- What stands in parentheses and is no query, behind the opening one.
def parenSource (r : Rules) : Parser Source := do
  let s ← r.source
  if s.isJoin || s.isNested then
    expectSymbol ")"
    return .nested s (← tableAlias? r)
  else if (← dialect).isGeneric then
    expectSymbol ")"
    match ← tableAlias? r with
    | none => return s
    | some as_ =>
      match s.withAlias as_ with
      | .ok s => return s
      | .error inner => fail ("duplicate alias " ++ inner.toText)
  else expected "joined table"

-- Rows given one by one. Some dialects allow empty rows.
def valueRows (r : Rules) (allowEmpty : Bool) : Parser (List Piece) := do
  let rows ← commaSeparated do
    let row ← keyword? "ROW"
    expectSymbol "("
    let items ← (do
      if allowEmpty && (← peekSymbol ")") then return [] else commaSeparated (r.expr 0))
    expectSymbol ")"
    return (row, Phrase.parens (Phrase.exprs items))
  let mark := if rows.any (·.1) then "ROW" else ""
  return Phrase.commas (rows.map fun (_, p) => words mark ++ p)

def unnest (r : Rules) : Parser Source := do
  let arrays ← parenthesized (commaSeparated (r.expr 0))
  let ordinality ← keywords? ["WITH", "ORDINALITY"]
  let as_ ← tableAlias? r
  let offset ← keywords? ["WITH", "OFFSET"]
  let offsetAlias ← (do if offset then columnAlias? else return none)
  return .phrase (words "UNNEST(" ++ Phrase.exprs arrays ++ words ")" ++
    flag ordinality " WITH ORDINALITY" ++ aliasPieces as_ ++ flag offset " WITH OFFSET" ++
    option " " Phrase.ident offsetAlias)

-- A table by its name, or a call.
def namedSource (r : Rules) : Parser Source := do
  let d ← dialect
  let name ← name
  let partitions ← (do
    if (d.isMysql || d.isGeneric) && (← peekKeyword "PARTITION") then
      skip
      return words "PARTITION (" ++ Phrase.idents (← identsInParens) ++ words ")"
    else return [])
  let args ← (do if ← symbol? "(" then tableArguments r else return [])
  let ordinality ← keywords? ["WITH", "ORDINALITY"]
  let as_ ← tableAlias? r
  let indexes ← (do
    if d.isMysql then return (← attempt indexHints).getD [] else return [])
  let hints ← (do
    if (← peekKeyword "WITH") && (← tokenAt 1).isSymbol "(" then
      skip
      return words " WITH (" ++ Phrase.exprs (← parenthesized (commaSeparated (r.expr 0))) ++
        words ")"
    else return [])
  let sample ← sample r
  let s ← pivots r (.table name (partitions ++ args ++ flag ordinality " WITH ORDINALITY") as_
    (indexes ++ hints ++ sample))
  if d.hasMatchRecognize && (← peekKeyword "MATCH_RECOGNIZE") then
    skip
    matchRecognize r s
  else return s

-- One item of a FROM clause without its joins.
def factor (r : Rules) : Parser Source := do
  let d ← dialect
  if ← keyword? "LATERAL" then
    if ← symbol? "(" then derived r true
    else
      let name ← name
      expectSymbol "("
      let args ← plainArguments r
      let as_ ← tableAlias? r
      return .phrase (words "LATERAL " ++ Phrase.name name ++ args ++ aliasPieces as_)
  else if ← keyword? "TABLE" then
    let e ← parenthesized (r.expr 0)
    let as_ ← tableAlias? r
    return .phrase (words "TABLE(" ++ Phrase.expr e ++ words ")" ++ aliasPieces as_)
  else if ← symbol? "(" then
    match ← attempt (derived r false) with
    | some s => pivots r s
    | none => parenSource r
  else if d.isGeneric && (← peekKeyword "VALUES") && (← tokenAt 1).isSymbol "(" then
    skip
    let rows ← valueRows r false
    let q := Query.ofBody (.phrase (words "VALUES " ++ rows))
    return .derived false q (← tableAlias? r)
  else if (d.isGeneric || d.isPostgresql) && (← peekKeyword "UNNEST") then
    skip
    unnest r
  else
    match ← documentTable? r with
    | some s => return s
    | none => namedSource r

def joinConstraint (r : Rules) (natural : Bool) : Parser JoinConstraint := do
  if natural then return .natural
  else if ← keyword? "ON" then return .on (← r.expr 0)
  else if ← keyword? "USING" then return .columns (← columnList true false name)
  else return .none

-- The kind of a join between two words that come in any dialect, if one is next.
def joinOperator? (natural : Bool) : Parser (Option JoinOperator) := do
  let joined (op : JoinOperator) : Parser (Option JoinOperator) := do
    expectKeyword "JOIN"
    return some op
  let k := (← token).keyword
  match k with
  | "JOIN" => joined .join
  | "INNER" =>
    skip
    joined .inner
  | "LEFT" | "RIGHT" =>
    skip
    let left := k == "LEFT"
    match ← oneOf? ["OUTER", "SEMI", "ANTI", "JOIN"] with
    | some "OUTER" => joined (if left then .leftOuter else .rightOuter)
    | some "SEMI" => joined (if left then .leftSemi else .rightSemi)
    | some "ANTI" => joined (if left then .leftAnti else .rightAnti)
    | some _ => return some (if left then .left else .right)
    | none => fail ("expected OUTER, SEMI, ANTI or JOIN after " ++ k)
  | "ANTI" =>
    skip
    joined .anti
  | "SEMI" =>
    skip
    joined .semi
  | "FULL" =>
    skip
    let _ ← keyword? "OUTER"
    joined .full
  | "OUTER" => expected "LEFT, RIGHT, or FULL"
  | "STRAIGHT_JOIN" =>
    skip
    return some .straight
  | _ => if natural then expected "a join type after NATURAL" else return none

-- The next join onto a source, if there is one.
def join? (r : Rules) (s : Source) : Parser (Option Source) := do
  let d ← dialect
  let global ← keyword? "GLOBAL"
  if ← keyword? "CROSS" then
    if ← keyword? "JOIN" then
      let right ← r.factor
      let c ← (do if d.isMysql then joinConstraint r false else return .none)
      return some (.join s global .cross right c)
    else if ← keyword? "APPLY" then
      return some (.join s global .crossApply (← r.factor) .none)
    else expected "JOIN or APPLY after CROSS"
  else if ← keyword? "OUTER" then
    expectKeyword "APPLY"
    return some (.join s global .outerApply (← r.factor) .none)
  else if ← keyword? "ASOF" then
    expectKeyword "JOIN"
    let right ← r.factor
    expectKeyword "MATCH_CONDITION"
    let cond ← parenthesized (r.expr 0)
    return some (.asof s global right
      (words " MATCH_CONDITION (" ++ Phrase.expr cond ++ words ")") (← joinConstraint r false))
  else
    let natural ← keyword? "NATURAL"
    match ← joinOperator? natural with
    | none => return none
    | some op =>
      let right ← r.factor
      return some (.join s global op right (← joinConstraint r natural))

def source (r : Rules) : Parser Source := do
  repeated (join? r) (← r.factor)

def sources (r : Rules) : Parser (List Source) := commaSeparated r.source

end Parser

end SqlLens.Sql
