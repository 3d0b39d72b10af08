import SqlLens.Sql.Grammar.Object

namespace SqlLens.Sql.Parser

open Phrase (words option flag)

-- Where a new column stands.
def columnPlace : Parser (List Piece) := do
  let d ← dialect
  if !(d.isMysql || d.isGeneric) then return []
  if ← keyword? "FIRST" then return words " FIRST"
  if ← keyword? "AFTER" then return words " AFTER " ++ Phrase.ident (← ident)
  return []

def addOperation (r : Rules) : Parser (List Piece) := do
  match ← tableConstraint? r with
  | some c =>
    let invalid ← keywords? ["NOT", "VALID"]
    return words "ADD " ++ c ++ flag invalid " NOT VALID"
  | none =>
    let early ← ifNotExists
    let column ← keyword? "COLUMN"
    let d ← dialect
    let exists_ ← (do
      if d.isPostgresql || d.isGeneric then return (← ifNotExists) || early else return false)
    let definition ← columnDefinition r
    return words "ADD" ++ flag column " COLUMN" ++ flag exists_ " IF NOT EXISTS" ++ words " " ++
      definition ++ (← columnPlace)

def dropOperation : Parser (List Piece) := do
  if ← keyword? "CONSTRAINT" then
    let exists_ ← ifExists
    let constraint ← ident
    return words "DROP CONSTRAINT " ++ flag exists_ "IF EXISTS " ++ Phrase.ident constraint ++
      (← dropBehavior)
  if ← keywords? ["PRIMARY", "KEY"] then return words "DROP PRIMARY KEY" ++ (← dropBehavior)
  let column ← keyword? "COLUMN"
  let exists_ ← ifExists
  let name ← ident
  return words "DROP " ++ flag column "COLUMN " ++ flag exists_ "IF EXISTS " ++
    Phrase.ident name ++ (← dropBehavior)

def renameOperation : Parser (List Piece) := do
  if ← keyword? "CONSTRAINT" then
    let old ← ident
    expectKeyword "TO"
    return words "RENAME CONSTRAINT " ++ Phrase.ident old ++ words " TO " ++
      Phrase.ident (← ident)
  if ← keyword? "TO" then return words "RENAME TO " ++ Phrase.name (← name)
  if ← keyword? "AS" then return words "RENAME AS " ++ Phrase.name (← name)
  let _ ← keyword? "COLUMN"
  let old ← ident
  expectKeyword "TO"
  return words "RENAME COLUMN " ++ Phrase.ident old ++ words " TO " ++ Phrase.ident (← ident)

def alterColumn (r : Rules) : Parser (List Piece) := do
  let _ ← keyword? "COLUMN"
  let column ← ident
  let head := words "ALTER COLUMN " ++ Phrase.ident column ++ words " "
  if ← keywords? ["SET", "NOT", "NULL"] then return head ++ words "SET NOT NULL"
  if ← keywords? ["DROP", "NOT", "NULL"] then return head ++ words "DROP NOT NULL"
  if ← keywords? ["SET", "DEFAULT"] then
    return head ++ words "SET DEFAULT " ++ Phrase.expr (← r.expr 0)
  if ← keywords? ["DROP", "DEFAULT"] then return head ++ words "DROP DEFAULT"
  let retype (k : String) : Parser (List Piece) := do
    let type ← typeName r
    let cast ← (do
      if (← dialect).isPostgresql || (← dialect).isGeneric then after? "USING" (r.expr 0)
      else return none)
    return head ++ words k ++ Phrase.dataType type ++ option " USING " Phrase.expr cast
  if ← keywords? ["SET", "DATA", "TYPE"] then return ← retype "SET DATA TYPE "
  if ← keyword? "TYPE" then return ← retype "TYPE "
  expected "SET/DROP NOT NULL, SET DEFAULT, or SET DATA TYPE after ALTER COLUMN"

def alterOperation (r : Rules) : Parser (List Piece) := do
  if ← keyword? "ADD" then addOperation r
  else if ← keyword? "RENAME" then renameOperation
  else if ← keyword? "DROP" then dropOperation
  else if ← keyword? "ALTER" then alterColumn r
  else if ← keywords? ["OWNER", "TO"] then
    return words "OWNER TO " ++ (← owner)
  else
    expected ("ADD, RENAME, PARTITION, SWAP, DROP, REPLICA IDENTITY, SET, or SET TBLPROPERTIES " ++
      "after ALTER TABLE")

def alterView (r : Rules) : Parser Statement := do
  let view ← name
  let columns ← columnList false false ident
  let settings ← sqlOptions r "WITH"
  expectKeyword "AS"
  let q ← r.query
  return .phrase (words "ALTER VIEW " ++ Phrase.name view ++
    Phrase.list " " (fun ids => Phrase.parens (Phrase.idents ids)) columns ++ spaced settings ++
    words " AS " ++ Phrase.query q)

def alterIndex : Parser Statement := do
  let index ← name
  if ← keyword? "RENAME" then
    if ← keyword? "TO" then
      return .phrase (words "ALTER INDEX " ++ Phrase.name index ++ words " RENAME TO " ++
        Phrase.name (← name))
    else expected "TO after RENAME"
  else expected "RENAME after ALTER INDEX"

-- The values of an enumeration.
def alterType : Parser Statement := do
  let head := words "ALTER TYPE " ++ Phrase.name (← name)
  if ← keywords? ["RENAME", "TO"] then
    return .phrase (head ++ words " RENAME TO " ++ Phrase.ident (← ident))
  else if ← keywords? ["ADD", "VALUE"] then
    let exists_ ← ifNotExists
    let value ← ident
    let place ← oneOf? ["BEFORE", "AFTER"]
    let neighbour ← (do if place.isSome then return some (← ident) else return none)
    return .phrase (head ++ words " ADD VALUE " ++ flag exists_ "IF NOT EXISTS " ++
      Phrase.ident value ++ option " " words place ++ option " " Phrase.ident neighbour)
  else if ← keywords? ["RENAME", "VALUE"] then
    let old ← ident
    expectKeyword "TO"
    return .phrase (head ++ words " RENAME VALUE " ++ Phrase.ident old ++ words " TO " ++
      Phrase.ident (← ident))
  else expected "\x7bRENAME TO | \x7b RENAME | ADD \x7d VALUE\x7d"

-- What a role may do.
def roleOption? : Parser (Option (List Piece)) := do
  match ← oneOf? ["BYPASSRLS", "NOBYPASSRLS", "CREATEDB", "NOCREATEDB", "CREATEROLE",
      "NOCREATEROLE", "INHERIT", "NOINHERIT", "LOGIN", "NOLOGIN", "REPLICATION", "NOREPLICATION",
      "SUPERUSER", "NOSUPERUSER"] with
  | some k => return some (words k)
  | none => return none

def roleValue? (r : Rules) : Parser (Option (List Piece)) := do
  if ← keywords? ["CONNECTION", "LIMIT"] then
    return some (words "CONNECTION LIMIT " ++ Phrase.expr (← r.expr 0))
  else if ← keyword? "PASSWORD" then
    if ← keyword? "NULL" then return some (words "PASSWORD NULL")
    return some (words "PASSWORD " ++ Phrase.expr (← r.expr 0))
  else if ← keywords? ["VALID", "UNTIL"] then
    return some (words "VALID UNTIL " ++ Phrase.expr (← r.expr 0))
  else roleOption?

def equalsOrTo? : Parser Bool := do
  if ← symbol? "=" then return true else keyword? "TO"

-- A setting of a role, as its value, its default or what it is now.
def roleSetting (r : Rules) : Parser (List Piece) := do
  let setting ← name
  if ← keywords? ["FROM", "CURRENT"] then return Phrase.name setting ++ words " FROM CURRENT"
  if !(← equalsOrTo?) then expected "'TO' or '=' or 'FROM CURRENT'"
  if ← keyword? "DEFAULT" then return Phrase.name setting ++ words " TO DEFAULT"
  return Phrase.name setting ++ words " TO " ++ Phrase.expr (← r.expr 0)

def alterRole (r : Rules) : Parser Statement := do
  if !(← dialect).isPostgresql then
    fail "ALTER ROLE is only support for PostgreSqlDialect, MsSqlDialect" (← position?)
  let head := words "ALTER ROLE " ++ Phrase.ident (← ident) ++ words " "
  let database ← (do
    if ← keywords? ["IN", "DATABASE"] then
      return words "IN DATABASE " ++ Phrase.name (← name) ++ words " "
    else return [])
  if ← keyword? "RENAME" then
    if !(← keyword? "TO") then expected "TO after RENAME"
    return .phrase (head ++ words "RENAME TO " ++ Phrase.ident (← ident))
  else if ← keyword? "SET" then
    return .phrase (head ++ database ++ words "SET " ++ (← roleSetting r))
  else if ← keyword? "RESET" then
    if ← keyword? "ALL" then return .phrase (head ++ database ++ words "RESET ALL")
    return .phrase (head ++ database ++ words "RESET " ++ Phrase.name (← name))
  else
    let _ ← keyword? "WITH"
    let found ← many (roleValue? r)
    if found.isEmpty then expected "option"
    return .phrase (head ++ words "WITH " ++ Phrase.separated " " found)

def alterSchema (r : Rules) : Parser Statement := do
  let exists_ ← ifExists
  let head := words "ALTER SCHEMA " ++ flag exists_ "IF EXISTS " ++ Phrase.name (← name)
  if ← keywords? ["RENAME", "TO"] then
    return .phrase (head ++ words " RENAME TO " ++ Phrase.name (← name))
  else if ← keywords? ["OWNER", "TO"] then
    return .phrase (head ++ words " OWNER TO " ++ (← owner))
  else if ← keywords? ["SET", "DEFAULT", "COLLATE"] then
    return .phrase (head ++ words " SET DEFAULT COLLATE " ++ Phrase.expr (← r.expr 0))
  else expected "ALTER SCHEMA operation"

-- Conditions on the rows that a user sees.
def alterPolicy (r : Rules) : Parser Statement := do
  let policy ← ident
  expectKeyword "ON"
  let head := words "ALTER POLICY " ++ Phrase.ident policy ++ words " ON " ++ Phrase.name (← name)
  if ← keyword? "RENAME" then
    expectKeyword "TO"
    return .phrase (head ++ words " RENAME TO " ++ Phrase.ident (← ident))
  return .phrase (head ++ (← policyConditions r))

def alterConnector (r : Rules) : Parser Statement := do
  let head := words "ALTER CONNECTOR " ++ Phrase.ident (← ident)
  expectKeyword "SET"
  let properties ← (do
    if ← keyword? "DCPROPERTIES" then parenthesized (commaSeparated0 (sqlOption r) ")")
    else return [])
  let url ← after? "URL" stringLiteral
  let owner ← after? "OWNER" do
    let kind ← expectOneOf ["USER", "ROLE"]
    return words (kind ++ " ") ++ Phrase.ident (← ident)
  return .phrase (head ++
    Phrase.list " SET DCPROPERTIES" (fun ps => Phrase.parens (Phrase.commas ps)) properties ++
    option " SET URL " quotedText url ++ option " SET OWNER " id owner)

-- A new name or a change to the sign-in of a user.
def alterUser : Parser Statement := do
  let exists_ ← ifExists
  let user ← ident
  let renamed ← (do
    if ← keywords? ["RENAME", "TO"] then return some (← ident) else return none)
  let reset ← keywords? ["RESET", "PASSWORD"]
  let abort ← keywords? ["ABORT", "ALL", "QUERIES"]
  let enroll ← keywords? ["ENROLL", "MFA"]
  let settings ← (do if ← keyword? "SET" then many keySetting? else return [])
  let unset ← after? "UNSET" (commaSeparated ident)
  return .phrase (words "ALTER USER" ++ flag exists_ " IF EXISTS" ++ words " " ++
    Phrase.ident user ++ option " RENAME TO " Phrase.ident renamed ++
    flag reset " RESET PASSWORD" ++ flag abort " ABORT ALL QUERIES" ++ flag enroll " ENROLL MFA" ++
    Phrase.list " SET " (Phrase.separated " ") settings ++ option " UNSET " Phrase.idents unset)

def alterOperator (r : Rules) : Parser Statement := do
  let operator ← operatorName
  let head := words "ALTER OPERATOR " ++ operator ++ (← operatorSides r)
  if ← keywords? ["OWNER", "TO"] then return .phrase (head ++ words " OWNER TO " ++ (← owner))
  if ← keywords? ["SET", "SCHEMA"] then
    return .phrase (head ++ words " SET SCHEMA " ++ Phrase.name (← name))
  expected "OWNER TO, SET SCHEMA, or SET after ALTER OPERATOR"

-- `kind` ends in front of `TABLE`.
def alterTable (r : Rules) (kind : String) : Parser Statement := do
  let exists_ ← ifExists
  let only ← keyword? "ONLY"
  let table ← name
  let cluster ← onCluster
  let operations ← commaSeparated (alterOperation r)
  return .phrase (words ("ALTER " ++ kind ++ "TABLE ") ++ flag exists_ "IF EXISTS " ++
    flag only "ONLY " ++ Phrase.name table ++ cluster ++ words " " ++ Phrase.commas operations)

def alter (r : Rules) : Parser Statement := do
  match ← expectOneOf ["VIEW", "TYPE", "TABLE", "INDEX", "ROLE", "POLICY", "CONNECTOR", "ICEBERG",
    "SCHEMA", "USER", "OPERATOR"] with
  | "VIEW" => alterView r
  | "INDEX" => alterIndex
  | "TYPE" => alterType
  | "ROLE" => alterRole r
  | "SCHEMA" => alterSchema r
  | "POLICY" => alterPolicy r
  | "CONNECTOR" => alterConnector r
  | "USER" => alterUser
  | "OPERATOR" => alterOperator r
  | "ICEBERG" =>
    expectKeyword "TABLE"
    alterTable r "ICEBERG "
  | _ => alterTable r ""

end SqlLens.Sql.Parser
