import SqlLens.Sql.Grammar.Alter

namespace SqlLens.Sql.Parser

open Phrase (words option flag)

def isolationLevel : Parser String := do
  if ← keywords? ["READ", "UNCOMMITTED"] then return "READ UNCOMMITTED"
  else if ← keywords? ["READ", "COMMITTED"] then return "READ COMMITTED"
  else if ← keywords? ["REPEATABLE", "READ"] then return "REPEATABLE READ"
  else if ← keyword? "SERIALIZABLE" then return "SERIALIZABLE"
  else if ← keyword? "SNAPSHOT" then return "SNAPSHOT"
  else expected "isolation level"

def transactionMode? : Parser (Option String) := do
  if ← keywords? ["ISOLATION", "LEVEL"] then return some ("ISOLATION LEVEL " ++ (← isolationLevel))
  else if ← keywords? ["READ", "ONLY"] then return some "READ ONLY"
  else if ← keywords? ["READ", "WRITE"] then return some "READ WRITE"
  else return none

-- Modes with or without commas between them. Behind a comma one has to follow.
def transactionModes : Parser (List Piece) := do
  let (modes, _) ← repeated (fun ((modes, required) : List String × Bool) => do
    match ← transactionMode? with
    | some mode => return some (modes ++ [mode], ← symbol? ",")
    | none => if required then expected "transaction mode" else return none) ([], false)
  return Phrase.list " " (fun ms => words (commas ms)) modes

def begin_ : Parser Statement := do
  let d ← dialect
  let modifier ← (do
    if d.isSqlite || d.isGeneric then
      oneOf? ["DEFERRED", "IMMEDIATE", "EXCLUSIVE", "TRY", "CATCH"]
    else return none)
  let kind ← oneOf? ["TRANSACTION", "WORK"]
  return .phrase (words "BEGIN" ++ option " " words modifier ++ option " " words kind ++
    (← transactionModes))

-- Whether the next transaction begins at once.
def chainClause : Parser (List Piece) := do
  let _ ← oneOf? ["TRANSACTION", "WORK"]
  if !(← keyword? "AND") then return []
  let not_ ← keyword? "NO"
  expectKeyword "CHAIN"
  return flag (!not_) " AND CHAIN"

def rollback : Parser Statement := do
  let chain ← chainClause
  let savepoint ← after? "TO" do
    let _ ← keyword? "SAVEPOINT"
    ident
  return .phrase (words "ROLLBACK" ++ chain ++ option " TO SAVEPOINT " Phrase.ident savepoint)

def scope : Parser String := do
  match ← oneOf? ["SESSION", "LOCAL", "GLOBAL"] with
  | some k => return k ++ " "
  | none => return ""

def setAssignment (r : Rules) : Parser (List Piece) := do
  let scope ← scope
  let variable_ ← name
  if !(← equalsOrTo?) then expected "assignment operator"
  return words scope ++ Phrase.name variable_ ++ words " = " ++ Phrase.expr (← r.expr 0)

def setValue (r : Rules) : Parser Expr := do
  match ← attempt (r.expr 0) with
  | some e => return e
  | none => expected "variable value"

def setRole (scope : String) : Parser Statement := do
  expectKeyword "ROLE"
  let role ← (do if ← keyword? "NONE" then return words "NONE" else return Phrase.ident (← ident))
  return .phrase (words ("SET " ++ scope ++ "ROLE ") ++ role)

def setTimeZone (r : Rules) (scope : String) : Parser Statement := do
  if ← equalsOrTo? then
    let values ← commaSeparated (setValue r)
    return .phrase (words ("SET " ++ scope ++ "TIMEZONE = ") ++ Phrase.exprs values)
  else
    let lead := if scope == "LOCAL " then "SET LOCAL TIME ZONE " else "SET TIME ZONE "
    return .phrase (words lead ++ Phrase.expr (← r.expr 0))

def setNames : Parser Statement := do
  if ← keyword? "DEFAULT" then return .phrase (words "SET NAMES DEFAULT")
  let charset ← ident
  let collation ← after? "COLLATE" stringLiteral
  return .phrase (words "SET NAMES " ++ Phrase.ident charset ++ option " COLLATE " words collation)

def setTransaction (session : Bool) : Parser Statement := do
  let lead := if session then "SET SESSION CHARACTERISTICS AS TRANSACTION" else "SET TRANSACTION"
  if ← (do if session then return false else keyword? "SNAPSHOT") then
    return .phrase (words (lead ++ " SNAPSHOT ") ++ Phrase.literal (← literal))
  return .phrase (words lead ++ (← transactionModes))

-- Variables in parentheses get as many values in parentheses.
def setParenthesized (r : Rules) : Parser Statement := do
  let targets ← parenthesized (commaSeparated ident)
  if !(← equalsOrTo?) then expected "equals sign or TO"
  let values ← parenthesized (commaSeparated (setValue r))
  return .phrase (words "SET " ++ Phrase.parens (Phrase.idents targets) ++ words " = " ++
    Phrase.parens (Phrase.exprs values))

def setVariable (r : Rules) (scope : String) : Parser Statement := do
  let d ← dialect
  if d.isGeneric && (← peekSymbol "(") then return ← setParenthesized r
  let variable_ ← name
  if !(← equalsOrTo?) then expected "equals sign or TO"
  let values ← commaSeparated (setValue r)
  return .phrase (words ("SET " ++ scope) ++ Phrase.name variable_ ++ words " = " ++
    Phrase.exprs values)

-- Several assignments at once, if they can be read so.
def setMany? (r : Rules) (scope : String) : Parser (Option (List (List Piece))) := do
  let d ← dialect
  if !(d.isMysql || d.isGeneric) then return none
  match ← attempt (commaSeparated (setAssignment r)) with
  | some (first :: rest) => return some ((words scope ++ first) :: rest)
  | _ => return none

def set_ (r : Rules) : Parser Statement := do
  let d ← dialect
  let scope ← scope
  if ← peekKeyword "ROLE" then
    if let some s ← attempt (setRole scope) then return s
  if ← (do if ← keywords? ["TIME", "ZONE"] then return true else keyword? "TIMEZONE") then
    return ← setTimeZone r scope
  if (d.isMysql || d.isGeneric) && (← peekKeyword "NAMES") then
    skip
    return ← setNames
  if ← keyword? "CHARACTERISTICS" then
    expectKeywords ["AS", "TRANSACTION"]
    return ← setTransaction true
  if ← keyword? "TRANSACTION" then return ← setTransaction false
  match ← setMany? r scope with
  | some items => return .phrase (words "SET " ++ Phrase.commas items)
  | none => setVariable r scope

-- Which of the things are shown.
def showFilter (r : Rules) : Parser (List Piece) := do
  match ← oneOf? ["LIKE", "ILIKE"] with
  | some k => return words (" " ++ k ++ " " ++ (Literal.string (← stringLiteral)).toText)
  | none =>
    if ← keyword? "WHERE" then return words " WHERE " ++ Phrase.expr (← r.expr 0)
    return []

-- Where they are looked for.
def showIn : Parser (List Piece) := do
  let places ← many do
    match ← oneOf? ["FROM", "IN"] with
    | some k => return some (words (" " ++ k ++ " ") ++ Phrase.name (← name))
    | none => return none
  return places.flatten

-- The words of a variable's name; other tokens are passed over.
def looseWords : Parser (List Ident) := do
  let found ← repeated (fun found => do
    match ← token with
    | .word text _ quote =>
      skip
      return some (found ++ [⟨text, quote⟩])
    | .eof => return none
    | .symbol s =>
      if s == "=" || s == ";" then return none
      skip
      return some found
    | _ =>
      skip
      return some found) []
  return found

def show_ (r : Rules) : Parser Statement := do
  let d ← dialect
  let extended ← keyword? "EXTENDED"
  let full ← keyword? "FULL"
  let session ← keyword? "SESSION"
  let global ← keyword? "GLOBAL"
  let lead := "SHOW " ++ (if extended then "EXTENDED " else "") ++ (if full then "FULL " else "")
  let listing (head : String) : Parser Statement := do
    let place ← showIn
    return .phrase (words head ++ place ++ (← showFilter r))
  let settings (k : String) : Parser Statement := do
    return .phrase (words ("SHOW " ++ (if global then "GLOBAL " else "") ++
      (if session then "SESSION " else "") ++ k) ++ (← showFilter r))
  match ← oneOf? ["COLUMNS", "FIELDS", "TABLES", "VIEWS"] with
  | some "VIEWS" => listing "SHOW VIEWS"
  | some "TABLES" => listing (lead ++ "TABLES")
  | some _ => listing (lead ++ "COLUMNS")
  | none =>
    if extended || full then
      fail "EXTENDED/FULL are not supported with this type of SHOW query"
    if ← keyword? "CREATE" then
      let kind ← expectOneOf ["TABLE", "TRIGGER", "FUNCTION", "PROCEDURE", "EVENT", "VIEW"]
      return .phrase (words ("SHOW CREATE " ++ kind ++ " ") ++ Phrase.name (← name))
    if ← keyword? "FUNCTIONS" then return .phrase (words "SHOW FUNCTIONS" ++ (← showFilter r))
    if ← keyword? "COLLATION" then return .phrase (words "SHOW COLLATION" ++ (← showFilter r))
    if d.isMysql || d.isGeneric then
      if let some k ← oneOf? ["VARIABLES", "STATUS"] then return ← settings k
    if let some k ← oneOf? ["DATABASES", "SCHEMAS"] then return ← listing ("SHOW " ++ k)
    let variable_ ← looseWords
    return .phrase (words "SHOW" ++
      Phrase.list " " (fun ids => Phrase.separated " " (ids.map Phrase.ident)) variable_)

def explainFormat : Parser (List Piece) := do
  if !(← keyword? "FORMAT") then return []
  let equals ← symbol? "="
  let l ← next
  let k := l.token.keyword
  if ["TEXT", "GRAPHVIZ", "JSON", "TREE", "TRADITIONAL"].contains k then
    return words ((if equals then "FORMAT=" else "FORMAT ") ++ k ++ " ")
  else expectedAt "fileformat" l

-- Options in parentheses, each with a value or without.
def utilityOptions (r : Rules) : Parser (List Piece) := do
  let items ← parenthesized (commaSeparated do
    let key ← ident
    if (← peekSymbol ",") || (← peekSymbol ")") then return Phrase.ident key
    return Phrase.ident key ++ words " " ++ Phrase.expr (← r.expr 0))
  return Phrase.parens (Phrase.commas items) ++ words " "

-- How a statement would be run, or what a table is made of.
def explain (r : Rules) (k : String) : Parser Statement := do
  let d ← dialect
  let options ← (do
    if k == "EXPLAIN" && (d.isPostgresql || d.isGeneric) && (← peekSymbol "(") then
      utilityOptions r
    else if ← keywords? ["QUERY", "PLAN"] then return words "QUERY PLAN "
    else if ← keyword? "ESTIMATE" then return words "ESTIMATE "
    else
      let analyze ← keyword? "ANALYZE"
      let verbose ← keyword? "VERBOSE"
      return flag analyze "ANALYZE " ++ flag verbose "VERBOSE " ++ (← explainFormat))
  let head := words (k ++ " ") ++ options
  let again ← peekAny ["EXPLAIN", "DESCRIBE", "DESC"]
  match ← attempt r.statement with
  | some s =>
    if again then fail "Explain must be root of the plan"
    return .phrase (head ++ s.pieces)
  | none =>
    let style ← oneOf? ["EXTENDED", "FORMATTED"]
    let table ← (do if d.isClickhouse then keyword? "TABLE" else return false)
    return .phrase (words (k ++ " ") ++ option "" (fun s => words (s ++ " ")) style ++
      flag table "TABLE " ++ Phrase.name (← name))

def callStatement (r : Rules) : Parser Statement := do
  let procedure ← name
  if ← peekSymbol "(" then
    return .phrase (words "CALL " ++ Phrase.expr (.call (← call r procedure)))
  else return .phrase (words "CALL " ++ Phrase.name procedure)

def prepare (r : Rules) : Parser Statement := do
  let name ← ident
  let types ← (do
    if ← symbol? "(" then
      let types ← commaSeparated (typeName r)
      expectSymbol ")"
      return types
    else return [])
  expectKeyword "AS"
  let s ← r.statement
  return .phrase (words "PREPARE " ++ Phrase.ident name ++ words " " ++
    (if types.isEmpty then [] else Phrase.parens (Phrase.types types) ++ words " ") ++
    words "AS " ++ s.pieces)

def execute (r : Rules) : Parser Statement := do
  let statement ← name
  let opened ← symbol? "("
  let params ← (do
    if !opened && ((← token).isEof || (← peekSymbol ";") || (← peekKeyword "USING")) then return []
    commaSeparated0 (r.expr 0) ")")
  if opened then expectSymbol ")"
  let args := if opened then Phrase.parens (Phrase.exprs params)
    else Phrase.list " " Phrase.exprs params
  return .phrase (words "EXECUTE " ++ Phrase.name statement ++ args)

def deallocate : Parser Statement := do
  let prepared ← keyword? "PREPARE"
  return .phrase (words "DEALLOCATE " ++ flag prepared "PREPARE " ++ Phrase.ident (← ident))

def pragmaValue : Parser (List Piece) := do
  let l ← lexeme
  let v ← literal
  match v with
  | .number .. | .string _ | .placeholder _ => return Phrase.literal v
  | .other text =>
    if text.startsWith "\x22" then return Phrase.literal v
    else expectedAt "number or string or ? placeholder" l
  | _ => expectedAt "number or string or ? placeholder" l

def pragma : Parser Statement := do
  let head := words "PRAGMA " ++ Phrase.name (← name)
  if ← peekSymbol "(" then
    return .phrase (head ++ Phrase.parens (← parenthesized pragmaValue))
  else if ← symbol? "=" then return .phrase (head ++ words " = " ++ (← pragmaValue))
  else return .phrase head

def comment : Parser Statement := do
  let exists_ ← ifExists
  expectKeyword "ON"
  let l ← next
  let k := l.token.keyword
  let kinds := ["COLUMN", "DATABASE", "DOMAIN", "EXTENSION", "FUNCTION", "INDEX", "PROCEDURE",
    "ROLE", "SCHEMA", "SEQUENCE", "TABLE", "TYPE", "USER", "VIEW"]
  if !kinds.contains k then
    expectedAt "comment object_type" l
  let object ← name
  expectKeyword "IS"
  let text ← (do
    if ← keyword? "NULL" then return "NULL"
    return (Literal.string (← stringLiteral)).toText)
  return .phrase (words ("COMMENT " ++ (if exists_ then "IF EXISTS " else "") ++ "ON " ++ k ++ " ") ++
    Phrase.name object ++ words (" IS " ++ text))

def assert_ (r : Rules) : Parser Statement := do
  let cond ← r.expr 0
  return .phrase (words "ASSERT " ++ Phrase.expr cond ++
    option " AS " Phrase.expr (← after? "AS" (r.expr 0)))

def kill : Parser Statement := do
  let start ← lexeme
  let modifier ← oneOf? ["CONNECTION", "QUERY", "MUTATION"]
  let d ← dialect
  if modifier == some "MUTATION" && !(d.isClickhouse || d.isGeneric) then
    fail "Unsupported type for KILL, allowed: CONNECTION | QUERY" (some start.start)
  return .phrase (words "KILL " ++ option "" (fun k => words (k ++ " ")) modifier ++
    words (toString (← natural)))

def analyze : Parser Statement := do
  let table ← keyword? "TABLE"
  return .phrase (words (if table then "ANALYZE TABLE " else "ANALYZE ") ++ Phrase.name (← name))

def vacuum : Parser Statement := do
  let full ← keyword? "FULL"
  let table ← attempt name
  return .phrase (words "VACUUM" ++ flag full " FULL" ++ option " " Phrase.name table)

def privileges : List (List String) :=
  [["SELECT"], ["INSERT"], ["UPDATE"], ["DELETE"], ["TRUNCATE"], ["REFERENCES"], ["TRIGGER"],
    ["USAGE"], ["CREATE"], ["CONNECT"], ["EXECUTE"], ["TEMPORARY"], ["DROP"], ["READ"], ["WRITE"]]

-- Privileges that may be limited to columns.
def privilege : Parser (List Piece) := do
  match ← firstOf? privileges with
  | none => expected "a privilege keyword"
  | some ks =>
    let limited := [["SELECT"], ["INSERT"], ["UPDATE"], ["REFERENCES"]].contains ks
    let columns ← (do if limited then columnList false false ident else return [])
    return words (" ".intercalate ks) ++
      Phrase.list " " (fun ids => Phrase.parens (Phrase.idents ids)) columns

-- What is granted or revoked, and on which objects.
def rights : Parser (List Piece × Option (List Piece)) := do
  let what ← (do
    if ← keyword? "ALL" then
      let long ← keyword? "PRIVILEGES"
      return words (if long then "ALL PRIVILEGES" else "ALL")
    return Phrase.commas (← commaSeparated privilege))
  let objects ← after? "ON" do
    if ← keywords? ["ALL", "TABLES", "IN", "SCHEMA"] then
      return words "ALL TABLES IN SCHEMA " ++ Phrase.names (← commaSeparated name)
    if ← keywords? ["ALL", "SEQUENCES", "IN", "SCHEMA"] then
      return words "ALL SEQUENCES IN SCHEMA " ++ Phrase.names (← commaSeparated name)
    let kind ← oneOf? ["SEQUENCE", "DATABASE", "SCHEMA", "TABLE", "VIEW", "FUNCTION", "PROCEDURE"]
    let head := match kind with
      | some "TABLE" | none => ""
      | some k => k ++ " "
    return words head ++ Phrase.names (← commaSeparated name)
  return (what, objects)

def grantees : Parser (List Piece) := do
  let found ← commaSeparated do
    let kind ← oneOf? ["ROLE", "USER", "SHARE", "GROUP", "PUBLIC"]
    match kind with
    | some "PUBLIC" => return words "PUBLIC"
    | some k => return words (k ++ " ") ++ Phrase.name (← name)
    | none => return Phrase.name (← name)
  return Phrase.commas found

def grantedBy : Parser (List Piece) := do
  if ← keywords? ["GRANTED", "BY"] then
    return words " GRANTED BY " ++ Phrase.ident (← ident)
  else return []

def grant : Parser Statement := do
  let (rights, objects) ← rights
  expectKeyword "TO"
  let grantees ← grantees
  let option_ ← keywords? ["WITH", "GRANT", "OPTION"]
  return .phrase (words "GRANT " ++ rights ++ option " ON " id objects ++ words " TO " ++ grantees ++
    flag option_ " WITH GRANT OPTION" ++ (← grantedBy))

def revoke : Parser Statement := do
  let (rights, objects) ← rights
  expectKeyword "FROM"
  let grantees ← grantees
  let by_ ← grantedBy
  return .phrase (words "REVOKE " ++ rights ++ option " ON " id objects ++ words " FROM " ++
    grantees ++ by_ ++ option " " words (← oneOf? ["CASCADE", "RESTRICT"]))

def deny : Parser Statement := do
  match ← rights with
  | (_, none) => fail "DENY statements must specify an object" (← position?)
  | (rights, some objects) =>
    expectKeyword "TO"
    let grantees ← grantees
    let cascade ← oneOf? ["CASCADE", "RESTRICT"]
    return .phrase (words "DENY " ++ rights ++ words " ON " ++ objects ++ words " TO " ++ grantees ++
      option " " words cascade ++ option " AS " Phrase.ident (← after? "AS" ident))

-- A statement behind its first word, if that word begins one of them.
def utility? (r : Rules) (k : String) : Parser (Option Statement) := do
  let d ← dialect
  let take (p : Parser Statement) : Parser (Option Statement) := do
    skip
    return some (← p)
  let phrase (p : Parser (List Piece)) : Parser (Option Statement) := take do
    return .phrase (← p)
  match k with
  | "CREATE" => take (create r)
  | "DROP" => take (drop r)
  | "ALTER" => take (alter r)
  | "TRUNCATE" => take truncateTable
  | "EXPLAIN" | "DESCRIBE" | "DESC" => take (explain r k)
  | "SET" => take (set_ r)
  | "SHOW" => take (show_ r)
  | "USE" => phrase do return words "USE " ++ Phrase.name (← name)
  | "BEGIN" => take begin_
  | "START" => phrase do
      expectKeyword "TRANSACTION"
      return words "START TRANSACTION" ++ (← transactionModes)
  | "COMMIT" | "END" => phrase do return words k ++ (← chainClause)
  | "ROLLBACK" => take rollback
  | "SAVEPOINT" => phrase do return words "SAVEPOINT " ++ Phrase.ident (← ident)
  | "RELEASE" => phrase do
      let _ ← keyword? "SAVEPOINT"
      return words "RELEASE SAVEPOINT " ++ Phrase.ident (← ident)
  | "CALL" => take (callStatement r)
  | "PREPARE" => take (prepare r)
  | "EXECUTE" | "EXEC" => take (execute r)
  | "DEALLOCATE" => take deallocate
  | "PRAGMA" => take pragma
  | "COMMENT" => if d.isPostgresql || d.isGeneric then take comment else return none
  | "ASSERT" => take (assert_ r)
  | "KILL" => take kill
  | "ANALYZE" => take analyze
  | "VACUUM" => take vacuum
  | "GRANT" => take grant
  | "REVOKE" => take revoke
  | "DENY" => take deny
  | "DISCARD" => phrase do
      return words ("DISCARD " ++ (← expectOneOf ["ALL", "PLANS", "SEQUENCES", "TEMP",
        "TEMPORARY"]))
  | "CLOSE" => phrase do
      if ← keyword? "ALL" then return words "CLOSE ALL"
      return words "CLOSE " ++ Phrase.ident (← ident)
  | k => control? r k

end SqlLens.Sql.Parser
