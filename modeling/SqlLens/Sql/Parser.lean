import SqlLens.Sql.Grammar.Change
import SqlLens.Sql.Grammar.Server

namespace SqlLens.Sql

namespace Parser

-- A statement, of which the first word decides the kind.
def statement (r : Rules) : Parser Statement := deeper do
  let d ← dialect
  let l ← lexeme
  match l.token.keyword with
  | "SELECT" | "WITH" | "VALUES" | "FROM" => return .query (← r.query)
  | "INSERT" | "UPDATE" | "DELETE" | "MERGE" => r.change
  | "REPLACE" =>
    if d.isSqlite then insert r false
    else
      skip
      if d.isMysql || d.isGeneric then insert r true
      else fail "Unsupported statement REPLACE" (← position?)
  | k =>
    if l.token.isSymbol "(" then return .query (← r.query)
    match ← serverStatement? r k with
    | some s => return s
    | none => expected "an SQL statement"

-- Statements up to the end of the text. Statements without a semicolon between them are refused.
def statements (r : Rules) : Parser (List Statement) := do
  let (found, _) ← repeated (fun ((found, _) : List Statement × Bool) => do
    let semicolons ← many do if ← symbol? ";" then return some () else return none
    let separated := found.isEmpty || !semicolons.isEmpty
    match ← token with
    | .eof => return none
    | t =>
      if !separated && t.isKeyword "END" then return none
      if !separated then expected "end of statement"
      return some ((← r.statement) :: found, true)) ([], false)
  return found.reverse

-- The entry points, with a bound on how deep they may call each other.
def rules : Nat → Rules
  | 0 =>
    let stop {α : Type} : Parser α := throw .exhausted
    { statement := stop, change := stop, query := stop, body := fun _ => stop,
      expr := fun _ => stop, operand := stop, factor := stop, source := stop, dataType := stop }
  | n + 1 =>
    { statement := fun d s => statement (rules n) d s
      change    := fun d s => change (rules n) d s
      query     := fun d s => query (rules n) d s
      body      := fun strength d s => body (rules n) strength d s
      expr      := fun strength d s => expression (rules n) strength d s
      operand   := fun d s => prefixExpr (rules n) d s
      factor    := fun d s => factor (rules n) d s
      source    := fun d s => source (rules n) d s
      dataType  := fun d s => dataType (rules n) d s }

end Parser

-- The statements of a text. Entry points that call each other without taking a token do so only a
-- few times, so the number of tokens bounds their depth.
def parse (d : Dialect) (text : String) : Except Fault (List Statement) := do
  let lexemes ← Lexer.lex d text
  let rules := Parser.rules (4 * lexemes.length + 400)
  let (found, _) ← (Parser.statements rules).run d |>.run { rest := lexemes }
  return found

end SqlLens.Sql
