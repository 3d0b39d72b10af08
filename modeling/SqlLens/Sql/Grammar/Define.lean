import SqlLens.Sql.Grammar.Column

namespace SqlLens.Sql.Parser

open Phrase (words option flag)

def ifNotExists : Parser Bool := keywords? ["IF", "NOT", "EXISTS"]

def ifExists : Parser Bool := keywords? ["IF", "EXISTS"]

-- Options of a table that are named by keywords.
def optionKeys : List (List String) :=
  [["DEFAULT", "CHARSET"], ["CHARSET"], ["DEFAULT", "CHARACTER", "SET"], ["CHARACTER", "SET"],
    ["DEFAULT", "COLLATE"], ["COLLATE"], ["DATA", "DIRECTORY"], ["INDEX", "DIRECTORY"],
    ["KEY_BLOCK_SIZE"], ["ROW_FORMAT"], ["PACK_KEYS"], ["STATS_AUTO_RECALC"],
    ["STATS_PERSISTENT"], ["STATS_SAMPLE_PAGES"], ["DELAY_KEY_WRITE"], ["COMPRESSION"],
    ["ENCRYPTION"], ["MAX_ROWS"], ["MIN_ROWS"], ["AUTOEXTEND_SIZE"], ["AVG_ROW_LENGTH"],
    ["CHECKSUM"], ["CONNECTION"], ["ENGINE_ATTRIBUTE"], ["PASSWORD"],
    ["SECONDARY_ENGINE_ATTRIBUTE"], ["INSERT_METHOD"], ["AUTO_INCREMENT"]]

-- Takes the first of the given runs of keywords that is next.
def firstOf? : List (List String) → Parser (Option (List String))
  | [] => return none
  | ks :: rest => do if ← keywords? ks then return some ks else firstOf? rest

def engineOption : Parser (List Piece) := do
  let _ ← symbol? "="
  let l ← next
  match l.token with
  | .word text _ _ =>
    let params ← (do
      if ← peekSymbol "(" then parenthesized (commaSeparated0 ident ")") else return [])
    return words ("ENGINE = " ++ text) ++
      Phrase.list "" (fun ids => Phrase.parens (Phrase.idents ids)) params
  | _ => expectedAt "Token::Word" l

def commentOption : Parser (List Piece) := do
  let equals ← symbol? "="
  let l ← next
  match l.token with
  | .string .single text =>
    return words ((if equals then "COMMENT = " else "COMMENT ") ++ "'" ++ text ++ "'")
  | _ => expectedAt "Token::SingleQuotedString" l

def plainOption? : Parser (Option (List Piece)) := do
  if ← keywords? ["START", "TRANSACTION"] then return some (words "START TRANSACTION")
  else if ← keyword? "COMMENT" then return some (← commentOption)
  else if ← keyword? "ENGINE" then return some (← engineOption)
  else
    match ← firstOf? optionKeys with
    | none => return none
    | some ks =>
      let _ ← symbol? "="
      let value ← (do
        match ← attempt literal with
        | some l => return Phrase.literal l
        | none => return Phrase.ident (← ident))
      return some (words (" ".intercalate ks ++ " = ") ++ value)

def plainOptions : Parser (List Piece) := do
  let found ← many do
    match ← plainOption? with
    | some o =>
      let _ ← symbol? ","
      return some o
    | none => return none
  return Phrase.separated " " found

def onCommit : Parser (List Piece) := do
  if !(← keywords? ["ON", "COMMIT"]) then return []
  if ← keyword? "DROP" then return words " ON COMMIT DROP"
  if ← keywords? ["DELETE", "ROWS"] then return words " ON COMMIT DELETE ROWS"
  if ← keywords? ["PRESERVE", "ROWS"] then return words " ON COMMIT PRESERVE ROWS"
  fail "Expecting DELETE ROWS, PRESERVE ROWS or DROP"

def onCluster : Parser (List Piece) := do
  if !(← keywords? ["ON", "CLUSTER"]) then return []
  let l ← lexeme
  match l.token with
  | .word .. => return words " ON CLUSTER " ++ Phrase.ident (← ident)
  | .string .single _ => return words " ON CLUSTER " ++ Phrase.ident (← ident)
  | _ => expectedAt "ON CLUSTER identifier" l

-- An order of the rows in a table, by one expression or several in parentheses.
def storageOrder (r : Rules) : Parser (List Piece) := do
  if ← symbol? "(" then
    let es ← commaSeparated0 (r.expr 0) ")"
    expectSymbol ")"
    return words " ORDER BY (" ++ Phrase.exprs es ++ words ")"
  else return words " ORDER BY " ++ Phrase.expr (← r.expr 0)

-- A blank in front of what is there.
def spaced (ps : List Piece) : List Piece := if ps.isEmpty then [] else words " " ++ ps

def createTable (r : Rules) (lead : String) : Parser Statement := do
  let d ← dialect
  let exists_ ← ifNotExists
  let table ← name
  let cluster ← onCluster
  let like ← (do
    match ← oneOf? ["LIKE", "ILIKE"] with
    | some _ => return some (← name)
    | none => return none)
  let clone ← after? "CLONE" name
  let elements ← tableElements r
  let rowless ← keywords? ["WITHOUT", "ROWID"]
  let inherits ← (do
    if ← keyword? "INHERITS" then columnList true false name else return [])
  let settings ← sqlOptions r "WITH"
  let partition ← (do
    if (d.isPostgresql || d.isGeneric) && (← keywords? ["PARTITION", "BY"]) then
      return some (← r.expr 0)
    else return none)
  let plain ← (do if settings.isEmpty then plainOptions else return [])
  let stored := d.isClickhouse || d.isGeneric
  let key ← (do
    if stored && (← keywords? ["PRIMARY", "KEY"]) then return some (← r.expr 0) else return none)
  let order ← (do
    if stored && (← keywords? ["ORDER", "BY"]) then storageOrder r else return [])
  let commit ← onCommit
  let strict ← keyword? "STRICT"
  let query ← (do
    if ← keyword? "AS" then return some (← r.query)
    if (d.isMysql || d.isGeneric) && (← peekKeyword "SELECT") then return some (← r.query)
    return none)
  let body :=
    if !elements.isEmpty then words " " ++ elements
    else if query.isNone && like.isNone && clone.isNone then words " ()"
    else []
  return .phrase (words (lead ++ "TABLE ") ++ flag exists_ "IF NOT EXISTS " ++ Phrase.name table ++
    cluster ++ body ++ flag rowless " WITHOUT ROWID" ++ option " LIKE " Phrase.name like ++
    option " CLONE " Phrase.name clone ++ spaced settings ++ spaced plain ++
    option " PRIMARY KEY " Phrase.expr key ++ order ++
    Phrase.list " INHERITS " (fun ns => Phrase.parens (Phrase.names ns)) inherits ++
    option " PARTITION BY " Phrase.expr partition ++ commit ++ flag strict " STRICT" ++
    option " AS " Phrase.query query)

-- `lead` ends in front of `VIEW` and its own words.
def createView (r : Rules) (lead : String) (temporary : Bool) : Parser Statement := do
  let d ← dialect
  let secure ← keyword? "SECURE"
  let materialized ← keyword? "MATERIALIZED"
  expectKeyword "VIEW"
  let before ← ifNotExists
  let view ← name
  let behind ← (do if before then return false else ifNotExists)
  let columns ← columnList false false ident
  let settings ← sqlOptions r "WITH"
  let target ← (do
    if d.isClickhouse || d.isGeneric then after? "TO" name else return none)
  expectKeyword "AS"
  let q ← r.query
  let unbound ← (do
    if d.isGeneric then keywords? ["WITH", "NO", "SCHEMA", "BINDING"] else return false)
  return .phrase (words lead ++ flag secure "SECURE " ++ flag materialized "MATERIALIZED " ++
    flag temporary "TEMPORARY " ++ words "VIEW " ++ flag before "IF NOT EXISTS " ++
    Phrase.name view ++ flag behind " IF NOT EXISTS" ++ option " TO " Phrase.name target ++
    Phrase.list " " (fun ids => Phrase.parens (Phrase.idents ids)) columns ++ spaced settings ++
    words " AS " ++ Phrase.query q ++ flag unbound " WITH NO SCHEMA BINDING")

def createIndex (r : Rules) (unique : Bool) : Parser Statement := do
  let d ← dialect
  let concurrently ← keyword? "CONCURRENTLY"
  let exists_ ← ifNotExists
  let unnamed ← (do if exists_ then return false else keyword? "ON")
  let (index, early) ← (do
    if unnamed then return (none, none)
    let index ← name
    let type ← indexType?
    expectKeyword "ON"
    return (some index, type))
  let table ← name
  let type := (← indexType?).or early
  let columns ← indexColumns r
  let included ← (do if ← keyword? "INCLUDE" then identsInParens else return [])
  let nulls ← (do
    if !(← keyword? "NULLS") then return ""
    let not_ ← keyword? "NOT"
    expectKeyword "DISTINCT"
    return if not_ then " NULLS NOT DISTINCT" else " NULLS DISTINCT")
  let settings ← (do
    if (d.isGeneric || d.isPostgresql) && (← keyword? "WITH") then
      return some (← parenthesized (commaSeparated (r.expr 0)))
    else return none)
  let cond ← after? "WHERE" (r.expr 0)
  return .phrase (words "CREATE " ++ flag unique "UNIQUE " ++ words "INDEX " ++
    flag concurrently "CONCURRENTLY " ++ flag exists_ "IF NOT EXISTS " ++
    (match index with
      | some n => Phrase.name n ++ words " "
      | none => []) ++
    words "ON " ++ Phrase.name table ++
    (match type with
      | some t => words " USING " ++ t ++ words " "
      | none => []) ++
    columns ++ Phrase.list " INCLUDE " (fun ids => Phrase.parens (Phrase.idents ids)) included ++
    words nulls ++ option " WITH " (fun es => Phrase.parens (Phrase.exprs es)) settings ++
    option " WHERE " Phrase.expr cond)

def createSchema (r : Rules) : Parser Statement := do
  let exists_ ← ifNotExists
  let label ← (do
    if ← keyword? "AUTHORIZATION" then return words "AUTHORIZATION " ++ Phrase.ident (← ident)
    let schema ← name
    return Phrase.name schema ++ option " AUTHORIZATION " Phrase.ident
      (← after? "AUTHORIZATION" ident))
  let collate ← (do
    if ← keywords? ["DEFAULT", "COLLATE"] then return some (← r.expr 0) else return none)
  let settings ← sqlOptions r "WITH"
  return .phrase (words "CREATE SCHEMA " ++ flag exists_ "IF NOT EXISTS " ++ label ++
    option " DEFAULT COLLATE " Phrase.expr collate ++ spaced settings)

def createDatabase : Parser Statement := do
  let exists_ ← ifNotExists
  let database ← name
  let quotedAfter (k : String) : Parser (List Piece) := do
    if ← keyword? k then return words (" " ++ k ++ " '" ++ (← stringLiteral) ++ "'") else return []
  let location ← quotedAfter "LOCATION"
  let managed ← quotedAfter "MANAGEDLOCATION"
  return .phrase (words "CREATE DATABASE" ++ flag exists_ " IF NOT EXISTS" ++ words " " ++
    Phrase.name database ++ location ++ managed)

def createRole : Parser Statement := do
  let exists_ ← ifNotExists
  return .phrase (words "CREATE ROLE " ++ flag exists_ "IF NOT EXISTS " ++
    Phrase.names (← commaSeparated name))

def createExtension : Parser Statement := do
  let exists_ ← ifNotExists
  let extension ← ident
  let (schema, version, cascade) ← (do
    if ← keyword? "WITH" then
      let schema ← after? "SCHEMA" ident
      let version ← after? "VERSION" ident
      return (schema, version, ← keyword? "CASCADE")
    else return (none, none, false))
  let with_ := cascade || schema.isSome || version.isSome
  return .phrase (words "CREATE EXTENSION " ++ flag exists_ "IF NOT EXISTS " ++
    Phrase.ident extension ++ flag with_ " WITH" ++ option " SCHEMA " Phrase.ident schema ++
    option " VERSION " Phrase.ident version ++ flag cascade " CASCADE")

-- A number or other value that a sequence is made with.
def sequenceOption? (r : Rules) : Parser (Option (List Piece)) := do
  let valued (head : String) : Parser (Option (List Piece)) := do
    return some (words head ++ Phrase.expr (← r.expr 0))
  if ← keywords? ["INCREMENT"] then
    if ← keyword? "BY" then valued " INCREMENT BY " else valued " INCREMENT "
  else if ← keyword? "MINVALUE" then valued " MINVALUE "
  else if ← keywords? ["NO", "MINVALUE"] then return some (words " NO MINVALUE")
  else if ← keyword? "MAXVALUE" then valued " MAXVALUE "
  else if ← keywords? ["NO", "MAXVALUE"] then return some (words " NO MAXVALUE")
  else if ← keyword? "START" then
    if ← keyword? "WITH" then valued " START WITH " else valued " START "
  else if ← keyword? "CACHE" then valued " CACHE "
  else if ← keywords? ["NO", "CYCLE"] then return some (words " NO CYCLE")
  else if ← keyword? "CYCLE" then return some (words " CYCLE")
  else return none

def createSequence (r : Rules) (temporary : Bool) : Parser Statement := do
  let exists_ ← ifNotExists
  let sequence ← name
  let type ← after? "AS" (typeName r)
  let options ← many (sequenceOption? r)
  let owner ← (do
    if !(← keywords? ["OWNED", "BY"]) then return []
    if ← keyword? "NONE" then return words " OWNED BY NONE"
    return words " OWNED BY " ++ Phrase.name (← name))
  return .phrase (words "CREATE " ++ flag temporary "TEMPORARY " ++ words "SEQUENCE " ++
    flag exists_ "IF NOT EXISTS " ++ Phrase.name sequence ++ option " AS " Phrase.dataType type ++
    options.flatten ++ owner)

def dropBehavior : Parser (List Piece) := do
  return option " " words (← oneOf? ["CASCADE", "RESTRICT"])

-- Who owns an object: a name, or the current user in one of its roles.
def owner : Parser (List Piece) := do
  if let some k ← oneOf? ["CURRENT_USER", "CURRENT_ROLE", "SESSION_USER"] then return words k
  match ← attempt' ident with
  | .ok id => return Phrase.ident id
  | .error f =>
    fail ("Expected: CURRENT_USER, CURRENT_ROLE, SESSION_USER or identifier after OWNER TO. " ++
      f.message)

-- Empties tables.
def truncateTable : Parser Statement := do
  let d ← dialect
  let table ← keyword? "TABLE"
  let exists_ ← ifExists
  let names ← commaSeparated do
    let only ← keyword? "ONLY"
    let n ← name
    let star ← symbol? "*"
    return flag only "ONLY " ++ Phrase.name n ++ flag star " *"
  let (identity, cascade) ← (do
    if !(d.isPostgresql || d.isGeneric) then return ("", none)
    let identity ← (do
      if ← keywords? ["RESTART", "IDENTITY"] then return " RESTART IDENTITY"
      if ← keywords? ["CONTINUE", "IDENTITY"] then return " CONTINUE IDENTITY"
      return "")
    return (identity, ← oneOf? ["CASCADE", "RESTRICT"]))
  let cluster ← onCluster
  return .phrase (words "TRUNCATE " ++ flag table "TABLE " ++ flag exists_ "IF EXISTS " ++
    Phrase.commas names ++ words identity ++ option " " words cascade ++ cluster)

end SqlLens.Sql.Parser
