import SqlLens.Sql.Grammar.Expr

namespace SqlLens.Sql.Parser

open Phrase (words option flag)

def aliasPieces (a : Option Alias) : List Piece := words (aliasText a)

-- What a column holds where the document has nothing to show.
def jsonFallback? : Parser (Option (List Piece)) := do
  let found : Option (List Piece) ← (do
    if ← keyword? "NULL" then return some (words " NULL")
    if ← keyword? "ERROR" then return some (words " ERROR")
    if ← keyword? "DEFAULT" then return some (words " DEFAULT " ++ Phrase.literal (← literal))
    return none)
  if found.isSome then expectKeyword "ON"
  return found

-- The fallbacks for a missing and for a bad value. The last one of a kind counts.
def jsonFallbacks : Parser (List Piece) := do
  let (empty, error) ← repeated (fun ((empty, error) : List Piece × List Piece) => do
    match ← jsonFallback? with
    | none => return none
    | some pieces =>
      if ← keyword? "EMPTY" then return some (pieces ++ words " ON EMPTY", error)
      expectKeyword "ERROR"
      return some (empty, pieces ++ words " ON ERROR")) ([], [])
  return empty ++ error

-- A column with a path, a counter of rows, or the columns of a document inside the document.
def jsonColumn (r : Rules) : Nat → Parser (List Piece)
  | 0 => throw .exhausted
  | n + 1 => do
    if ← keyword? "NESTED" then
      let _ ← keyword? "PATH"
      let path ← literal
      expectKeyword "COLUMNS"
      let columns ← parenthesized (commaSeparated (jsonColumn r n))
      return words "NESTED PATH " ++ Phrase.literal path ++ words " COLUMNS " ++
        Phrase.parens (Phrase.commas columns)
    let name ← ident
    if ← keyword? "FOR" then
      expectKeyword "ORDINALITY"
      return Phrase.ident name ++ words " FOR ORDINALITY"
    let type ← typeName r
    let exists_ ← keyword? "EXISTS"
    expectKeyword "PATH"
    let path ← literal
    return Phrase.ident name ++ words " " ++ Phrase.dataType type ++ flag exists_ " EXISTS" ++
      words " PATH " ++ Phrase.literal path ++ (← jsonFallbacks)

-- Columns of a document of objects and lists. The opening parenthesis has been taken.
def jsonTable (r : Rules) : Parser Source := do
  let document ← r.expr 0
  expectSymbol ","
  let path ← literal
  expectKeyword "COLUMNS"
  let bound := (← get).rest.length
  let columns ← parenthesized (commaSeparated (jsonColumn r bound))
  expectSymbol ")"
  let as_ ← tableAlias? r
  return .phrase (words "JSON_TABLE(" ++ Phrase.expr document ++ words ", " ++
    Phrase.literal path ++ words " COLUMNS" ++ Phrase.parens (Phrase.commas columns) ++
    words ")" ++ aliasPieces as_)

def openJsonColumn (r : Rules) : Parser (List Piece) := do
  let name ← ident
  let type ← typeName r
  let path ← (do
    match ← token with
    | .string .single text =>
      skip
      return words (" " ++ enclosed '\x27' text)
    | _ => return [])
  let json ← keyword? "AS"
  if json then expectKeyword "JSON"
  return Phrase.ident name ++ words " " ++ Phrase.dataType type ++ path ++ flag json " AS JSON"

def openJson (r : Rules) : Parser Source := do
  let document ← r.expr 0
  let path ← (do if ← symbol? "," then return some (← literal) else return none)
  expectSymbol ")"
  let columns ← after? "WITH" (parenthesized (commaSeparated (openJsonColumn r)))
  let as_ ← tableAlias? r
  return .phrase (words "OPENJSON(" ++ Phrase.expr document ++
    option ", " Phrase.literal path ++ words ")" ++
    option " WITH " (fun cs => Phrase.parens (Phrase.commas cs)) columns ++ aliasPieces as_)

def xmlSpace (r : Rules) : Parser (List Piece) := do
  let address ← r.expr 0
  expectKeyword "AS"
  return Phrase.expr address ++ words " AS " ++ Phrase.ident (← ident)

def xmlArgument (r : Rules) : Parser (List Piece) := do
  let byValue ← keywords? ["BY", "VALUE"]
  let e ← r.expr 0
  return flag byValue "BY VALUE " ++ Phrase.expr e ++
    option " AS " Phrase.ident (← after? "AS" ident)

def xmlColumn (r : Rules) : Parser (List Piece) := do
  let name ← ident
  if ← keyword? "FOR" then
    expectKeyword "ORDINALITY"
    return Phrase.ident name ++ words " FOR ORDINALITY"
  let type ← typeName r
  let path ← after? "PATH" (r.expr 0)
  let default ← after? "DEFAULT" (r.expr 0)
  let notNull ← keywords? ["NOT", "NULL"]
  if !notNull then
    let _ ← keyword? "NULL"
  return Phrase.ident name ++ words " " ++ Phrase.dataType type ++
    option " PATH " Phrase.expr path ++ option " DEFAULT " Phrase.expr default ++
    flag notNull " NOT NULL"

-- Columns of a document of elements. The opening parenthesis has been taken.
def xmlTable (r : Rules) : Parser Source := do
  let spaces ← after? "XMLNAMESPACES" do
    let spaces ← parenthesized (commaSeparated (xmlSpace r))
    expectSymbol ","
    return words "XMLNAMESPACES(" ++ Phrase.commas spaces ++ words "), "
  let rows ← r.expr 0
  let passing ← after? "PASSING" (commaSeparated (xmlArgument r))
  expectKeyword "COLUMNS"
  let columns ← commaSeparated (xmlColumn r)
  expectSymbol ")"
  let as_ ← tableAlias? r
  return .phrase (words "XMLTABLE(" ++ spaces.getD [] ++ Phrase.expr rows ++
    option " PASSING " Phrase.commas passing ++ words " COLUMNS " ++ Phrase.commas columns ++
    words ")" ++ aliasPieces as_)

-- A table made from a document, if its keyword and parenthesis are next.
def documentTable? (r : Rules) : Parser (Option Source) := do
  let k := (← token).keyword
  if !(← tokenAt 1).isSymbol "(" then return none
  let take (p : Parser Source) : Parser (Option Source) := do
    skip
    skip
    return some (← p)
  match k with
  | "JSON_TABLE" => take (jsonTable r)
  | "OPENJSON" => take (openJson r)
  | "XMLTABLE" => take (xmlTable r)
  | _ => return none

end SqlLens.Sql.Parser
