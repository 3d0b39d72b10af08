import SqlLens.Sql.Grammar.Routine

namespace SqlLens.Sql.Parser

open Phrase (words option flag)

-- A type with named parts, or the values of an enumeration.
def createType (r : Rules) : Parser Statement := do
  let head := words "CREATE TYPE " ++ Phrase.name (← name)
  if !(← keyword? "AS") then return .phrase head
  if ← keyword? "ENUM" then
    let labels ← parenthesized (commaSeparated0 ident ")")
    return .phrase (head ++ words " AS ENUM " ++ Phrase.parens (Phrase.idents labels))
  if !(← peekSymbol "(") then expected "ENUM, RANGE, or '(' after AS"
  let parts ← parenthesized (commaSeparated0 (do
    let part ← ident
    let type ← typeName r
    return Phrase.ident part ++ words " " ++ Phrase.dataType type ++
      option " COLLATE " Phrase.name (← after? "COLLATE" name)) ")")
  return .phrase (head ++ words " AS " ++ Phrase.parens (Phrase.commas parts))

def createDomain (r : Rules) : Parser Statement := do
  let domain ← name
  expectKeyword "AS"
  let type ← typeName r
  let collate ← after? "COLLATE" ident
  let default ← after? "DEFAULT" (r.expr 0)
  let constraints ← many (tableConstraint? r)
  return .phrase (words "CREATE DOMAIN " ++ Phrase.name domain ++ words " AS " ++
    Phrase.dataType type ++ option " COLLATE " Phrase.ident collate ++
    option " DEFAULT " Phrase.expr default ++
    Phrase.list " " (Phrase.separated " ") constraints)

-- Conditions on the rows that a user sees and on those that he may write.
def policyConditions (r : Rules) : Parser (List Piece) := do
  let roles ← after? "TO" (commaSeparated owner)
  let using_ ← after? "USING" (parenthesized (r.expr 0))
  let check ← (do
    if ← keywords? ["WITH", "CHECK"] then return some (← parenthesized (r.expr 0))
    else return none)
  return option " TO " Phrase.commas roles ++
    option " USING " (fun e => Phrase.parens (Phrase.expr e)) using_ ++
    option " WITH CHECK " (fun e => Phrase.parens (Phrase.expr e)) check

def createPolicy (r : Rules) : Parser Statement := do
  let policy ← ident
  expectKeyword "ON"
  let table ← name
  let kind ← after? "AS" (expectOneOf ["PERMISSIVE", "RESTRICTIVE"])
  let command ← after? "FOR" (expectOneOf ["ALL", "SELECT", "INSERT", "UPDATE", "DELETE"])
  return .phrase (words "CREATE POLICY " ++ Phrase.ident policy ++ words " ON " ++
    Phrase.name table ++ option " AS " words kind ++ option " FOR " words command ++
    (← policyConditions r))

def quotedText (text : String) : List Piece := words ("'" ++ text ++ "'")

def createConnector (r : Rules) : Parser Statement := do
  let exists_ ← ifNotExists
  let connector ← ident
  let type ← after? "TYPE" stringLiteral
  let url ← after? "URL" stringLiteral
  let comment ← after? "COMMENT" do
    let _ ← symbol? "="
    let l ← next
    match l.token with
    | .string .single text => return text
    | _ => expectedAt "Token::SingleQuotedString" l
  let properties ← (do
    if ← keywords? ["WITH", "DCPROPERTIES"] then
      parenthesized (commaSeparated0 (sqlOption r) ")")
    else return [])
  return .phrase (words "CREATE CONNECTOR " ++ flag exists_ "IF NOT EXISTS " ++
    Phrase.ident connector ++ option " TYPE " quotedText type ++ option " URL " quotedText url ++
    option " COMMENT = " quotedText comment ++
    Phrase.list " WITH DCPROPERTIES" (fun ps => Phrase.parens (Phrase.commas ps)) properties)

def createServer : Parser Statement := do
  let exists_ ← ifNotExists
  let server ← name
  let type ← after? "TYPE" ident
  let version ← after? "VERSION" ident
  expectKeywords ["FOREIGN", "DATA", "WRAPPER"]
  let wrapper ← name
  let options ← after? "OPTIONS" (parenthesized (commaSeparated do
    let key ← ident
    return Phrase.ident key ++ words " " ++ Phrase.ident (← ident)))
  return .phrase (words "CREATE SERVER " ++ flag exists_ "IF NOT EXISTS " ++ Phrase.name server ++
    option " TYPE " Phrase.ident type ++ option " VERSION " Phrase.ident version ++
    words " FOREIGN DATA WRAPPER " ++ Phrase.name wrapper ++
    option " OPTIONS " (fun ps => Phrase.parens (Phrase.commas ps)) options)

-- A setting by its key and a plain value.
def keySetting? : Parser (Option (List Piece)) := do
  let l ← lexeme
  match l.token with
  | .word key _ _ =>
    skip
    expectSymbol "="
    match ← token with
    | .word value k _ =>
      skip
      let value := if k == "TRUE" || k == "FALSE" then k.toLower else value
      return some (words (key ++ "=" ++ value))
    | _ => return some (words (key ++ "=") ++ Phrase.literal (← literal))
  | _ => return none

def createUser (replace : Bool) : Parser Statement := do
  let exists_ ← ifNotExists
  let user ← ident
  let settings ← many keySetting?
  return .phrase (words "CREATE " ++ flag replace "OR REPLACE " ++ words "USER " ++
    flag exists_ "IF NOT EXISTS " ++ Phrase.ident user ++
    Phrase.list " " (Phrase.separated " ") settings)

def createSecret (lead : String) : Parser Statement := do
  let exists_ ← ifNotExists
  let secret ← (do
    if (← peekSymbol "(") || (← peekKeyword "IN") then return none else return some (← ident))
  let storage ← after? "IN" ident
  let (type, options) ← parenthesized do
    expectKeyword "TYPE"
    let type ← ident
    let options ← (do
      if !(← symbol? ",") then return []
      commaSeparated do
        let key ← ident
        return Phrase.ident key ++ words " " ++ Phrase.ident (← ident))
    return (type, options)
  return .phrase (words (lead ++ "SECRET ") ++ flag exists_ "IF NOT EXISTS " ++
    option "" (fun id => Phrase.ident id ++ words " ") secret ++
    option "IN " (fun id => Phrase.ident id ++ words " ") storage ++
    words "( TYPE " ++ Phrase.ident type ++ Phrase.list ", " Phrase.commas options ++ words " )")

-- A table that a module answers for.
def createVirtualTable : Parser Statement := do
  expectKeyword "TABLE"
  let exists_ ← ifNotExists
  let table ← name
  expectKeyword "USING"
  let module_ ← ident
  let args ← columnList false true ident
  return .phrase (words "CREATE VIRTUAL TABLE " ++ flag exists_ "IF NOT EXISTS " ++
    Phrase.name table ++ words " USING " ++ Phrase.ident module_ ++
    Phrase.list " " (fun ids => Phrase.parens (Phrase.idents ids)) args)

-- A table whose rows stand in files.
def createExternalTable (r : Rules) (replace : Bool) : Parser Statement := do
  expectKeyword "TABLE"
  let exists_ ← ifNotExists
  let table ← name
  let elements ← tableElements r
  let form ← (do
    if ← keywords? ["STORED", "AS"] then
      return some (← expectOneOf ["TEXTFILE", "SEQUENCEFILE", "ORC", "PARQUET", "AVRO", "RCFILE",
        "JSONFILE"])
    else return none)
  let location ← after? "LOCATION" stringLiteral
  return .phrase (words "CREATE " ++ flag replace "OR REPLACE " ++ words "EXTERNAL TABLE " ++
    flag exists_ "IF NOT EXISTS " ++ Phrase.name table ++
    (if elements.isEmpty then words " ()" else words " " ++ elements) ++
    option " STORED AS " words form ++ option " LOCATION " quotedText location)

-- What is said about an operator, in the order in which it is written.
def operatorTraits : List String :=
  ["FUNCTION", "PROCEDURE", "LEFTARG", "RIGHTARG", "COMMUTATOR", "NEGATOR", "RESTRICT", "JOIN",
    "HASHES", "MERGES"]

def operatorTrait (r : Rules) : Parser (String × List Piece) := do
  let k ← expectOneOf operatorTraits
  if k == "HASHES" || k == "MERGES" then return (k, words k)
  expectSymbol "="
  let value ← (do
    match k with
    | "LEFTARG" | "RIGHTARG" => return Phrase.dataType (← typeName r)
    | "COMMUTATOR" | "NEGATOR" => operatorName
    | _ => return Phrase.name (← name))
  return (k, words (k ++ " = ") ++ value)

def createOperator (r : Rules) : Parser Statement := do
  if ← keyword? "FAMILY" then
    let family ← name
    expectKeyword "USING"
    return .phrase (words "CREATE OPERATOR FAMILY " ++ Phrase.name family ++ words " USING " ++
      Phrase.ident (← ident))
  let operator ← operatorName
  let traits ← parenthesized (commaSeparated (operatorTrait r))
  let keys := traits.map fun (k, _) => if k == "PROCEDURE" then "FUNCTION" else k
  if !decide keys.Nodup then fail "Duplicate or unexpected keyword in CREATE OPERATOR"
  if !keys.contains "FUNCTION" then fail "CREATE OPERATOR requires FUNCTION parameter"
  return .phrase (words "CREATE OPERATOR " ++ operator ++ words " " ++
    Phrase.parens (Phrase.commas (operatorTraits.filterMap (List.lookup · traits))))

-- Behind `CREATE`. Words that do not fit the object are taken and left out.
def create (r : Rules) : Parser Statement := do
  let d ← dialect
  let replace ← keywords? ["OR", "REPLACE"]
  let alter ← keywords? ["OR", "ALTER"]
  let local_ ← keyword? "LOCAL"
  let global ← keyword? "GLOBAL"
  let transient ← keyword? "TRANSIENT"
  let temporary := (← oneOf? ["TEMP", "TEMPORARY"]).isSome
  let constrained := (← peekKeyword "CONSTRAINT") && (← tokenAt 1).isKeyword "TRIGGER"
  let lead := "CREATE " ++ (if alter then "OR ALTER " else "") ++
    (if replace then "OR REPLACE " else "")
  if ← keyword? "TABLE" then
    createTable r ("CREATE " ++ (if replace then "OR REPLACE " else "") ++
      (if global then "GLOBAL " else if local_ then "LOCAL " else "") ++
      (if temporary then "TEMPORARY " else "") ++ (if transient then "TRANSIENT " else ""))
  else if ← peekAny ["MATERIALIZED", "VIEW", "SECURE"] then createView r lead temporary
  else if ← keyword? "POLICY" then createPolicy r
  else if ← keyword? "EXTERNAL" then createExternalTable r replace
  else if ← peekKeyword "FUNCTION" then
    if !(d.isPostgresql || d.isGeneric) then expected "an object type after CREATE"
    skip
    createFunction r ("CREATE " ++ (if replace then "OR REPLACE " else "") ++
      (if temporary then "TEMPORARY " else ""))
  else if ← keyword? "DOMAIN" then createDomain r
  else if (← peekKeyword "TRIGGER") || constrained then
    if d.isClickhouse then expected "an object type after CREATE"
    if constrained then skip
    skip
    createTrigger r ("CREATE " ++ (if temporary then "TEMPORARY " else "") ++
      (if alter then "OR ALTER " else "") ++ (if replace then "OR REPLACE " else "") ++
      (if constrained then "CONSTRAINT " else ""))
  else if ← peekAny ["MACRO", "SECRET"] then
    if !d.isGeneric then expected "an object type after CREATE"
    let lead := "CREATE " ++ (if replace then "OR REPLACE " else "") ++
      (if temporary then "TEMPORARY " else "")
    if ← keyword? "MACRO" then createMacro r lead
    else
      skip
      createSecret lead
  else if ← keyword? "USER" then createUser replace
  else if replace then
    expected "[EXTERNAL] TABLE or [MATERIALIZED] VIEW or FUNCTION after CREATE OR REPLACE"
  else if ← keyword? "EXTENSION" then createExtension
  else if ← keyword? "INDEX" then createIndex r false
  else if ← keywords? ["UNIQUE", "INDEX"] then createIndex r true
  else if ← keyword? "VIRTUAL" then createVirtualTable
  else if ← keyword? "SCHEMA" then createSchema r
  else if ← keyword? "DATABASE" then createDatabase
  else if ← keyword? "ROLE" then createRole
  else if ← keyword? "SEQUENCE" then createSequence r temporary
  else if ← keyword? "TYPE" then createType r
  else if ← keyword? "PROCEDURE" then createProcedure r alter
  else if ← keyword? "CONNECTOR" then createConnector r
  else if ← keyword? "OPERATOR" then createOperator r
  else if ← keyword? "SERVER" then createServer
  else expected "an object type after CREATE"

def objectKinds : List (List String) :=
  [["TABLE"], ["VIEW"], ["MATERIALIZED", "VIEW"], ["INDEX"], ["ROLE"], ["SCHEMA"], ["DATABASE"],
    ["SEQUENCE"], ["STAGE"], ["TYPE"], ["USER"], ["STREAM"]]

-- Objects that are dropped one at a time, some of them from a table.
def dropOne (k : String) : Parser (List Piece) := do
  let exists_ ← ifExists
  let object ← name
  let table ← (do
    if k == "POLICY" then
      expectKeyword "ON"
      return some (← name)
    else if k == "TRIGGER" then after? "ON" name
    else return none)
  let behavior ← (do if k == "CONNECTOR" then return [] else dropBehavior)
  return words ("DROP " ++ k ++ " ") ++ flag exists_ "IF EXISTS " ++ Phrase.name object ++
    option " ON " Phrase.name table ++ behavior

def dropExtension : Parser (List Piece) := do
  let exists_ ← ifExists
  let names ← commaSeparated ident
  return words "DROP EXTENSION " ++ flag exists_ "IF EXISTS " ++ Phrase.idents names ++
    (← dropBehavior)

-- Functions or procedures, of one name several if they take different arguments.
def dropRoutines (r : Rules) (k : String) : Parser (List Piece) := do
  let exists_ ← ifExists
  let routines ← commaSeparated (functionLabel r)
  return words ("DROP " ++ k) ++ flag exists_ " IF EXISTS" ++ words " " ++
    Phrase.commas routines ++ (← dropBehavior)

def dropSecret (temporary : Bool) : Parser (List Piece) := do
  let exists_ ← ifExists
  let secret ← ident
  return words "DROP " ++ flag temporary "TEMPORARY " ++ words "SECRET" ++
    flag exists_ " IF EXISTS" ++ words " " ++ Phrase.ident secret ++
    option " FROM " Phrase.ident (← after? "FROM" ident)

def dropOperators (r : Rules) : Parser (List Piece) := do
  let exists_ ← ifExists
  let operators ← commaSeparated do
    let operator ← operatorName
    return operator ++ (← operatorSides r)
  return words "DROP OPERATOR" ++ flag exists_ " IF EXISTS" ++ words " " ++
    Phrase.commas operators ++ (← dropBehavior)

def drop (r : Rules) : Parser Statement := do
  let d ← dialect
  let temporary ← (do if d.isMysql || d.isGeneric then keyword? "TEMPORARY" else return false)
  match ← firstOf? objectKinds with
  | none =>
    match ← oneOf? ["POLICY", "TRIGGER", "CONNECTOR", "DOMAIN"] with
    | some k => return .phrase (← dropOne k)
    | none =>
    if ← keyword? "EXTENSION" then return .phrase (← dropExtension)
    if let some k ← oneOf? ["FUNCTION", "PROCEDURE"] then return .phrase (← dropRoutines r k)
    if ← keyword? "SECRET" then return .phrase (← dropSecret temporary)
    if ← keyword? "OPERATOR" then return .phrase (← dropOperators r)
    expected ("CONNECTOR, DATABASE, EXTENSION, FUNCTION, INDEX, OPERATOR, POLICY, PROCEDURE, " ++
      "ROLE, SCHEMA, SECRET, SEQUENCE, STAGE, TABLE, TRIGGER, TYPE, VIEW, MATERIALIZED VIEW " ++
      "or USER after DROP")
  | some ks =>
    let exists_ ← ifExists
    let names ← commaSeparated name
    let start ← position?
    let cascade ← keyword? "CASCADE"
    let restrict ← keyword? "RESTRICT"
    let purge ← keyword? "PURGE"
    if cascade && restrict then fail "Cannot specify both CASCADE and RESTRICT in DROP" start
    if ks == ["ROLE"] && (cascade || restrict || purge) then
      fail "Cannot specify CASCADE, RESTRICT, or PURGE in DROP ROLE" start
    let table ← after? "ON" name
    return .phrase (words "DROP " ++ flag temporary "TEMPORARY " ++
      words (" ".intercalate ks) ++ flag exists_ " IF EXISTS" ++ words " " ++ Phrase.names names ++
      flag cascade " CASCADE" ++ flag restrict " RESTRICT" ++ flag purge " PURGE" ++
      option " ON " Phrase.name table)

end SqlLens.Sql.Parser
