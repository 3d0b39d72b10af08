import SqlLens.Sql.Grammar.Document

namespace SqlLens.Sql

-- A pattern over rows, as it is written. Symbols stand for rows and are defined by conditions.
inductive RowPattern where
  | symbol (text : String)
  | exclude (id : Ident)
  | permute (ids : List Ident)
  | concat (ps : List RowPattern)
  | group (p : RowPattern)
  | alternation (ps : List RowPattern)
  | repetition (p : RowPattern) (count : String)

namespace RowPattern

mutual

def toText : RowPattern → String
  | .symbol text => text
  | .exclude id => "\x7b- " ++ id.toText ++ " -\x7d"
  | .permute ids => "PERMUTE(" ++ commas (ids.map Ident.toText) ++ ")"
  | .concat ps => " ".intercalate (texts ps)
  | .group p => "( " ++ p.toText ++ " )"
  | .alternation ps => " | ".intercalate (texts ps)
  | .repetition p count => p.toText ++ count

def texts : List RowPattern → List String
  | [] => []
  | p :: ps => p.toText :: texts ps

end

-- Alternatives in a row are one list.
def orElse : RowPattern → RowPattern → RowPattern
  | p, .alternation ps => .alternation (p :: ps)
  | p, q => .alternation [p, q]

def ofList : List RowPattern → RowPattern
  | [p] => p
  | ps => .concat ps

end RowPattern

namespace Parser

open Phrase (words option flag)

-- A pattern that is not put together from others, except in parentheses.
def basePattern (inner : Parser RowPattern) : Parser RowPattern := do
  match ← token with
  | .symbol "^" =>
    skip
    return .symbol "^"
  | .placeholder "$" =>
    skip
    return .symbol "$"
  | .symbol "\x7b" =>
    skip
    expectSymbol "-"
    let id ← ident
    expectSymbol "-"
    expectSymbol "\x7d"
    return .exclude id
  | .word "PERMUTE" _ none =>
    skip
    return .permute (← identsInParens)
  | .symbol "(" =>
    skip
    let p ← inner
    expectSymbol ")"
    return .group p
  | _ => return .symbol (← ident).toText

def countText (digits : String) (l : Lexeme) : Parser String := do
  match natural? digits with
  | .ok n =>
    if n < Nat.pow 2 32 then return toString n
    fail ("Could not parse '" ++ digits ++ "' as u32: number too large to fit in target type")
      (some l.start)
  | .error why => fail ("Could not parse '" ++ digits ++ "' as u32: " ++ why) (some l.start)

-- How often a pattern comes, between braces.
def countRange : Parser String := do
  let first ← next
  let bound (l : Lexeme) : Parser String := do
    match l.token with
    | .number digits _ => countText digits first
    | _ => expectedAt "literal number" l
  match first.token with
  | .symbol "," =>
    let most ← bound (← next)
    expectSymbol "\x7d"
    return "\x7b," ++ most ++ "\x7d"
  | .number .. =>
    if ← symbol? "," then
      let l ← next
      match l.token with
      | .number .. =>
        expectSymbol "\x7d"
        return "\x7b" ++ (← bound first) ++ "," ++ (← bound l) ++ "\x7d"
      | .symbol "\x7d" => return "\x7b" ++ (← bound first) ++ ",\x7d"
      | _ => expectedAt "\x7d or upper bound" l
    else
      expectSymbol "\x7d"
      return "\x7b" ++ (← bound first) ++ "\x7d"
  | _ => expectedAt "quantifier range" first

def patternCount? : Parser (Option String) := do
  match ← token with
  | .symbol "*" =>
    skip
    return some "*"
  | .symbol "+" =>
    skip
    return some "+"
  | .placeholder "?" =>
    skip
    return some "?"
  | .symbol "\x7b" =>
    skip
    return some (← countRange)
  | _ => return none

def repeatedPattern (inner : Parser RowPattern) : Parser RowPattern := do
  repeated (fun p => do
    match ← patternCount? with
    | some count => return some (.repetition p count)
    | none => return none) (← basePattern inner)

def concatPattern (inner : Parser RowPattern) : Parser RowPattern := do
  let ps ← separated (do return !((← peekSymbol ")") || (← peekSymbol "|")))
    (repeatedPattern inner)
  return .ofList ps

-- A pattern of at most so many levels.
def rowPattern : Nat → Parser RowPattern
  | 0 => throw .exhausted
  | n + 1 => do
    let p ← concatPattern (rowPattern n)
    if ← symbol? "|" then return p.orElse (← rowPattern n) else return p

-- How many rows are shown of a run.
def rowsPerMatch : Parser String := do
  if ← keywords? ["ONE", "ROW", "PER", "MATCH"] then return "ONE ROW PER MATCH "
  else if ← keywords? ["ALL", "ROWS", "PER", "MATCH"] then
    if ← keywords? ["SHOW", "EMPTY", "MATCHES"] then
      return "ALL ROWS PER MATCH SHOW EMPTY MATCHES "
    if ← keywords? ["OMIT", "EMPTY", "MATCHES"] then
      return "ALL ROWS PER MATCH OMIT EMPTY MATCHES "
    if ← keywords? ["WITH", "UNMATCHED", "ROWS"] then
      return "ALL ROWS PER MATCH WITH UNMATCHED ROWS "
    return "ALL ROWS PER MATCH "
  else return ""

-- Where the search goes on behind a run.
def afterMatch : Parser (List Piece) := do
  if !(← keywords? ["AFTER", "MATCH", "SKIP"]) then return []
  if ← keywords? ["PAST", "LAST", "ROW"] then return words "AFTER MATCH SKIP PAST LAST ROW "
  if ← keywords? ["TO", "NEXT", "ROW"] then return words "AFTER MATCH SKIP TO NEXT ROW "
  if ← keywords? ["TO", "FIRST"] then
    return words "AFTER MATCH SKIP TO FIRST " ++ Phrase.ident (← ident) ++ words " "
  if ← keywords? ["TO", "LAST"] then
    return words "AFTER MATCH SKIP TO LAST " ++ Phrase.ident (← ident) ++ words " "
  expected "after match skip option"

-- The runs of rows of a table, behind the keyword.
def matchRecognize (r : Rules) (s : Source) : Parser Source := do
  expectSymbol "("
  let partition ← (do
    if ← keywords? ["PARTITION", "BY"] then commaSeparated (r.expr 0) else return [])
  let order ← (do if ← keywords? ["ORDER", "BY"] then orderItems r else return [])
  let measures ← after? "MEASURES" <| commaSeparated do
    let e ← r.expr 0
    let _ ← keyword? "AS"
    return Phrase.expr e ++ words " AS " ++ Phrase.ident (← ident)
  let rows ← rowsPerMatch
  let skipTo ← afterMatch
  expectKeyword "PATTERN"
  let bound := (← get).rest.length
  let pattern ← parenthesized (rowPattern bound)
  expectKeyword "DEFINE"
  let symbols ← commaSeparated do
    let id ← ident
    expectKeyword "AS"
    return Phrase.ident id ++ words " AS " ++ Phrase.expr (← r.expr 0)
  expectSymbol ")"
  let as_ ← tableAlias? r
  let spaced (p : List Piece) : List Piece := if p.isEmpty then [] else p ++ words " "
  return .phrase (Phrase.source s ++ words " MATCH_RECOGNIZE(" ++
    spaced (Phrase.list "PARTITION BY " Phrase.exprs partition) ++
    spaced (Phrase.list "ORDER BY " Phrase.orderItems order) ++
    spaced (option "MEASURES " Phrase.commas measures) ++ words rows ++ skipTo ++
    words ("PATTERN (" ++ pattern.toText ++ ") DEFINE ") ++ Phrase.commas symbols ++ words ")" ++
    aliasPieces as_)

end Parser

end SqlLens.Sql
