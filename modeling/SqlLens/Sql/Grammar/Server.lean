import SqlLens.Sql.Grammar.Transfer

namespace SqlLens.Sql.Parser

open Phrase (words option flag)

def attach (r : Rules) : Parser Statement := do
  let database ← keyword? "DATABASE"
  let file ← r.expr 0
  expectKeyword "AS"
  return .phrase (words "ATTACH " ++ flag database "DATABASE " ++ Phrase.expr file ++
    words " AS " ++ Phrase.ident (← ident))

def detach : Parser Statement := do
  let database ← keyword? "DATABASE"
  let exists_ ← ifExists
  return .phrase (words "DETACH" ++ flag database " DATABASE" ++ flag exists_ " IF EXISTS" ++
    words " " ++ Phrase.ident (← ident))

def unlisten : Parser Statement := do
  if ← symbol? "*" then return .phrase (words "UNLISTEN *")
  match ← attempt ident with
  | some channel => return .phrase (words "UNLISTEN " ++ Phrase.ident channel)
  | none => expected "wildcard or identifier"

def notify : Parser Statement := do
  let channel ← ident
  let payload ← (do if ← symbol? "," then return some (← stringLiteral) else return none)
  return .phrase (words "NOTIFY " ++ Phrase.ident channel ++
    option ", " quotedText payload)

def lockedTable : Parser (List Piece) := do
  let table ← ident
  let explicit ← keyword? "AS"
  let as_ ← (do
    if explicit then return some (← ident)
    if ← peekAny ["READ", "WRITE", "LOW_PRIORITY"] then return none
    attempt ident)
  let kind ← (do
    if ← keyword? "READ" then
      if ← keyword? "LOCAL" then return "READ LOCAL" else return "READ"
    if ← keywords? ["LOW_PRIORITY", "WRITE"] then return "LOW_PRIORITY WRITE"
    if ← keyword? "WRITE" then return "WRITE"
    expected "an lock type in LOCK TABLES")
  return Phrase.ident table ++ option " AS " Phrase.ident as_ ++ words (" " ++ kind)

def rename : Parser Statement := do
  if !(← keyword? "TABLE") then expected "KEYWORD \x60TABLE\x60 after RENAME"
  let tables ← commaSeparated do
    let old ← name
    expectKeyword "TO"
    return Phrase.name old ++ words " TO " ++ Phrase.name (← name)
  return .phrase (words "RENAME TABLE " ++ Phrase.commas tables)

def reset : Parser Statement := do
  if ← keyword? "ALL" then return .phrase (words "RESET ALL")
  return .phrase (words "RESET " ++ Phrase.name (← name))

-- A statement behind its first word, if that word begins one of them.
def serverStatement? (r : Rules) (k : String) : Parser (Option Statement) := do
  let d ← dialect
  let take (when : Bool) (p : Parser Statement) : Parser (Option Statement) := do
    if !when then return none
    skip
    return some (← p)
  match k with
  | "ATTACH" => take true (attach r)
  | "DETACH" => take d.isGeneric detach
  | "LISTEN" => take d.isPostgresql do return .phrase (words "LISTEN " ++ Phrase.ident (← ident))
  | "UNLISTEN" => take d.isPostgresql unlisten
  | "NOTIFY" => take d.isPostgresql notify
  | "LOCK" => take (d.isMysql && (← tokenAt 1).isKeyword "TABLES") do
      skip
      return .phrase (words "LOCK TABLES " ++ Phrase.commas (← commaSeparated lockedTable))
  | "UNLOCK" => take (d.isMysql && (← tokenAt 1).isKeyword "TABLES") do
      skip
      return .phrase (words "UNLOCK TABLES")
  | "RENAME" => take true rename
  | "RESET" => take true reset
  | "INSTALL" => take d.isGeneric do return .phrase (words "INSTALL " ++ Phrase.ident (← ident))
  | "LOAD" => take true do
      if !d.isGeneric then expected "\x60DATA\x60 or an extension name after \x60LOAD\x60"
      return .phrase (words "LOAD " ++ Phrase.ident (← ident))
  | "PRINT" => take true do return .phrase (words "PRINT " ++ Phrase.expr (← r.expr 0))
  | "RETURN" => take true do
      return .phrase (words "RETURN" ++ option " " Phrase.expr (← attempt (r.expr 0)))
  | _ => transfer? r k

end SqlLens.Sql.Parser
