import SqlLens.Sql.Grammar.Session

namespace SqlLens.Sql.Parser

open Phrase (words option flag)

def declareCursor (r : Rules) : Parser Statement := do
  let cursor ← ident
  let binary ← keyword? "BINARY"
  let sensitivity ← oneOf? ["INSENSITIVE", "ASENSITIVE"]
  let scroll ← (do
    if ← keyword? "SCROLL" then return " SCROLL"
    if ← keywords? ["NO", "SCROLL"] then return " NO SCROLL"
    return "")
  expectKeyword "CURSOR"
  let hold ← oneOf? ["WITH", "WITHOUT"]
  if hold.isSome then expectKeyword "HOLD"
  expectKeyword "FOR"
  let q ← r.query
  return .phrase (words "DECLARE " ++ Phrase.ident cursor ++ flag binary " BINARY" ++
    option " " words sensitivity ++ words (scroll ++ " CURSOR") ++
    option " " (fun k => words (k ++ " HOLD")) hold ++ words " FOR " ++ Phrase.query q)

-- Which rows a cursor gives next.
def fetchDirection : Parser (List Piece) := do
  match ← oneOf? ["NEXT", "PRIOR", "FIRST", "LAST", "ALL"] with
  | some k => return words k
  | none =>
    match ← oneOf? ["ABSOLUTE", "RELATIVE"] with
    | some k => return words (k ++ " ") ++ Phrase.literal (← numberLiteral)
    | none =>
      match ← oneOf? ["FORWARD", "BACKWARD"] with
      | some k =>
        if ← keyword? "ALL" then return words (k ++ " ALL")
        return words (k ++ " ") ++ Phrase.literal (← numberLiteral)
      | none => return Phrase.literal (← numberLiteral)

def fetchRows : Parser Statement := do
  let direction ← fetchDirection
  match ← oneOf? ["FROM", "IN"] with
  | none => fail "Expected FROM or IN" (← position?)
  | some k =>
    let cursor ← ident
    return .phrase (words "FETCH " ++ direction ++ words (" " ++ k ++ " ") ++ Phrase.ident cursor ++
      option " INTO " Phrase.name (← after? "INTO" name))

def literalText (s : String) : List Piece := words (Literal.string s).toText

-- A single character between quotes.
def characterLiteral : Parser (List Piece) := do
  let l ← lexeme
  let s ← stringLiteral
  if s.length != 1 then expectedAt "a char" l
  return literalText s

-- The form of a file that rows are copied to or from.
def copyOption : Parser (List Piece) := do
  let switch (k : String) : Parser (List Piece) := do
    match ← oneOf? ["TRUE", "FALSE"] with
    | some "FALSE" => return words (k ++ " FALSE")
    | _ => return words k
  match ← oneOf? ["FORMAT", "FREEZE", "DELIMITER", "NULL", "HEADER", "QUOTE", "ESCAPE",
      "FORCE_QUOTE", "FORCE_NOT_NULL", "FORCE_NULL", "ENCODING"] with
  | none => expected "option"
  | some k =>
    match k with
    | "FORMAT" => return words "FORMAT " ++ Phrase.ident (← ident)
    | "FREEZE" | "HEADER" => switch k
    | "NULL" | "ENCODING" => return words (k ++ " ") ++ literalText (← stringLiteral)
    | "DELIMITER" | "QUOTE" | "ESCAPE" => return words (k ++ " ") ++ (← characterLiteral)
    | k =>
      let columns ← columnList true false ident
      return words (k ++ " ") ++ Phrase.parens (Phrase.idents columns)

-- The same without parentheses around the options.
def looseCopyOption? : Parser (Option (List Piece)) := do
  if ← keyword? "BINARY" then return some (words "BINARY")
  match ← oneOf? ["DELIMITER", "NULL"] with
  | none => return none
  | some k =>
    let _ ← keyword? "AS"
    if k == "NULL" then return some (words "NULL " ++ literalText (← stringLiteral))
    return some (words "DELIMITER " ++ (← characterLiteral))

-- Rows from a table into a file or back. Rows that stand in the text itself are not read.
def copyRows (r : Rules) : Parser Statement := do
  let (source, query) ← (do
    if ← peekSymbol "(" then
      return (Phrase.parens (Phrase.query (← parenthesized r.query)), true)
    else
      let table ← name
      let columns ← columnList false false ident
      return (Phrase.name table ++
        Phrase.list " " (fun ids => Phrase.parens (Phrase.idents ids)) columns, false))
  let way ← (do
    match ← oneOf? ["FROM", "TO"] with
    | some k => return k
    | none => expected "FROM or TO")
  if query && way == "FROM" then fail "COPY ... FROM does not support query as a source"
  let target ← (do
    if ← keyword? "STDOUT" then return words "STDOUT"
    if ← keyword? "PROGRAM" then return words "PROGRAM " ++ literalText (← stringLiteral)
    return literalText (← stringLiteral))
  let _ ← keyword? "WITH"
  let options ← (do
    if ← peekSymbol "(" then parenthesized (commaSeparated copyOption) else return [])
  let loose ← many looseCopyOption?
  return .phrase (words "COPY " ++ source ++ words (" " ++ way ++ " ") ++ target ++
    Phrase.list " " (fun ps => Phrase.parens (Phrase.commas ps)) options ++
    Phrase.list " " (Phrase.separated " ") loose)

-- The rows of a query into files elsewhere. The query may be given as a string.
def unload (r : Rules) : Parser Statement := do
  let rows ← parenthesized do
    match ← token with
    | .string .single _ => return quotedText (← stringLiteral)
    | _ => return Phrase.query (← r.query)
  expectKeyword "TO"
  let target ← ident
  let role ← after? "IAM_ROLE" do
    if ← keyword? "DEFAULT" then return words "DEFAULT"
    return quotedText (← stringLiteral)
  let settings ← sqlOptions r "WITH"
  let loose ← many looseCopyOption?
  return .phrase (words "UNLOAD" ++ Phrase.parens rows ++ words " TO " ++ Phrase.ident target ++
    option " IAM_ROLE " id role ++ spaced settings ++
    Phrase.list " " (Phrase.separated " ") loose)

-- A query behind `AS` or on its own.
def cachedQuery (r : Rules) : Parser (List Piece) := do
  let as_ ← keyword? "AS"
  if !as_ && !(← token).isWord then expected "a QUERY statement"
  return words (if as_ then " AS " else " ") ++ Phrase.query (← r.query)

def cacheTable (r : Rules) : Parser Statement := do
  let mark ← (do if ← peekKeyword "TABLE" then return none else return some (← name))
  if !(← keyword? "TABLE") then expected "a \x60TABLE\x60 keyword"
  let table ← name
  let options ← (do
    if ← keyword? "OPTIONS" then parenthesized (commaSeparated0 (sqlOption r) ")")
    else return [])
  let query ← (do if (← token).isEof then return [] else cachedQuery r)
  return .phrase (words "CACHE " ++ option "" (fun n => Phrase.name n ++ words " ") mark ++
    words "TABLE " ++ Phrase.name table ++
    Phrase.list " OPTIONS" (fun ps => Phrase.parens (Phrase.commas ps)) options ++ query)

def uncacheTable : Parser Statement := do
  expectKeyword "TABLE"
  let exists_ ← ifExists
  return .phrase (words "UNCACHE TABLE " ++ flag exists_ "IF EXISTS " ++ Phrase.name (← name))

def flushKinds : List (List String) :=
  [["BINARY", "LOGS"], ["ENGINE", "LOGS"], ["ERROR", "LOGS"], ["GENERAL", "LOGS"], ["HOSTS"],
    ["PRIVILEGES"], ["LOGS"], ["OPTIMIZER_COSTS"], ["RELAY", "LOGS"], ["SLOW", "LOGS"],
    ["STATUS"], ["USER_RESOURCES"], ["TABLES"]]

-- What is said about the tables that are flushed, in any order.
structure FlushedTables where
  names  : List Name := []
  locked : Bool := false
  exported : Bool := false

def flushedTables : Parser (List Piece) := do
  let t ← repeated (fun (t : FlushedTables) => do
    if ← keyword? "WITH" then return some { t with locked := ← keywords? ["READ", "LOCK"] }
    if ← keyword? "FOR" then return some { t with exported := ← keyword? "EXPORT" }
    if (← token).isWord then return some { t with names := ← commaSeparated name }
    return none) {}
  return Phrase.list " " Phrase.names t.names ++ flag t.locked " WITH READ LOCK" ++
    flag t.exported " FOR EXPORT"

def flush : Parser Statement := do
  let d ← dialect
  if !(d.isMysql || d.isGeneric) then fail "Unsupported statement FLUSH" (← position?)
  let place ← oneOf? ["NO_WRITE_TO_BINLOG", "LOCAL"]
  match ← firstOf? flushKinds with
  | none =>
    expected ("BINARY LOGS, ENGINE LOGS, ERROR LOGS, GENERAL LOGS, HOSTS, LOGS, PRIVILEGES, " ++
      "OPTIMIZER_COSTS, RELAY LOGS [FOR CHANNEL channel], SLOW LOGS, STATUS, USER_RESOURCES, " ++
      "or TABLES")
  | some ks =>
    let channel ← (do
      if ks == ["RELAY", "LOGS"] && (← keywords? ["FOR", "CHANNEL"]) then return some (← name)
      else return none)
    let tables ← (do if ks == ["TABLES"] then flushedTables else return [])
    return .phrase (words "FLUSH " ++ option "" (fun k => words (k ++ " ")) place ++
      words (" ".intercalate ks) ++ option " FOR CHANNEL " Phrase.name channel ++ tables)

def optimizeTable (r : Rules) : Parser Statement := do
  expectKeyword "TABLE"
  let table ← name
  let cluster ← onCluster
  let partition ← (do
    if !(← keyword? "PARTITION") then return []
    if ← keyword? "ID" then return words " PARTITION ID " ++ Phrase.ident (← ident)
    return words " PARTITION " ++ Phrase.expr (← r.expr 0))
  let final ← keyword? "FINAL"
  let distinct ← (do
    if !(← keyword? "DEDUPLICATE") then return []
    if ← keyword? "BY" then return words " DEDUPLICATE BY " ++ Phrase.expr (← r.expr 0)
    return words " DEDUPLICATE")
  return .phrase (words "OPTIMIZE TABLE " ++ Phrase.name table ++ cluster ++ partition ++
    flag final " FINAL" ++ distinct)

def checkTable : Parser Statement := do
  let repair ← keyword? "REPAIR"
  expectKeyword "TABLE"
  let table ← name
  let action ← attempt do
    let k ← expectOneOf ["ADD", "DROP", "SYNC"]
    expectKeyword "PARTITIONS"
    return k
  return .phrase (words "MSCK " ++ flag repair "REPAIR " ++ words "TABLE " ++ Phrase.name table ++
    option " " (fun k => words (k ++ " PARTITIONS")) action)

-- A statement behind its first word, if that word begins one of them.
def transfer? (r : Rules) (k : String) : Parser (Option Statement) := do
  let d ← dialect
  let take (p : Parser Statement) : Parser (Option Statement) := do
    skip
    return some (← p)
  match k with
  | "DECLARE" => take (declareCursor r)
  | "FETCH" => take fetchRows
  | "OPEN" => take do return .phrase (words "OPEN " ++ Phrase.ident (← ident))
  | "COPY" => take (copyRows r)
  | "UNLOAD" => take (unload r)
  | "CACHE" => take (cacheTable r)
  | "UNCACHE" => take uncacheTable
  | "FLUSH" => take flush
  | "MSCK" => take checkTable
  | "OPTIMIZE" => if d.isClickhouse || d.isGeneric then take (optimizeTable r) else return none
  | k => utility? r k

end SqlLens.Sql.Parser
