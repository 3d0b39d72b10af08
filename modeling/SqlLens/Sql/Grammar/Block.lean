import SqlLens.Sql.Grammar.Name

namespace SqlLens.Sql.Parser

open Phrase (words option)

-- Statements that belong together, and the words around them as they were written.
structure Block where
  opening    : String := ""
  statements : List (List Piece)
  closing    : String := ""

def Block.pieces (b : Block) : List Piece :=
  (if b.opening.isEmpty then [] else words (b.opening ++ " ")) ++
    Phrase.list "" (fun ps => Phrase.separated "; " ps ++ words ";") b.statements ++
    (if b.closing.isEmpty then [] else words (" " ++ b.closing))

-- Statements with a semicolon behind each, up to the end or one of the words.
def statementsUpTo (r : Rules) (stops : List String) : Parser (List (List Piece)) := many do
  let t ← token
  if t.isEof || stops.contains t.keyword then return none
  let s ← r.statement
  expectSymbol ";"
  return some s.pieces

def block (r : Rules) (stops : List String) : Parser Block := do
  let opening ← token
  if ← keyword? "BEGIN" then
    let statements ← statementsUpTo r stops
    let closing ← token
    expectKeyword "END"
    return ⟨opening.text, statements, closing.text⟩
  else return { statements := ← statementsUpTo r stops }

-- The statements behind a word that was taken, and what they depend on.
def branch (r : Rules) (word : Token) (stops : List String) : Parser (List Piece) := do
  let cond ← (do
    if word.isKeyword "ELSE" then return []
    let e ← r.expr 0
    if word.isKeyword "WHILE" then return words " " ++ Phrase.expr e
    expectKeyword "THEN"
    return words " " ++ Phrase.expr e ++ words " THEN")
  let b ← block r stops
  return words word.text ++ cond ++
    (if b.statements.isEmpty then [] else words " " ++ b.pieces)

def branch? (r : Rules) (k : String) (stops : List String) : Parser (Option (List Piece)) := do
  let word ← token
  if ← keyword? k then return some (← branch r word stops) else return none

def ifStatement (r : Rules) (word : Token) : Parser Statement := do
  let first ← branch r word ["ELSE", "ELSEIF", "END"]
  let others ← many (branch? r "ELSEIF" ["ELSEIF", "ELSE", "END"])
  let last ← branch? r "ELSE" ["END"]
  expectKeyword "END"
  let closing ← token
  expectKeyword "IF"
  return .phrase (Phrase.separated " " (first :: others ++ last.toList) ++
    words (" END " ++ closing.text))

def caseStatement (r : Rules) : Parser Statement := do
  let subject ← (do if ← peekKeyword "WHEN" then return none else return some (← r.expr 0))
  let branches ← many (branch? r "WHEN" ["WHEN", "ELSE", "END"])
  if branches.isEmpty then expected "WHEN"
  let last ← branch? r "ELSE" ["END"]
  expectKeyword "END"
  let closing := if ← keyword? "CASE" then " END CASE" else " END"
  return .phrase (words "CASE" ++ option " " Phrase.expr subject ++ words " " ++
    Phrase.separated " " (branches ++ last.toList) ++ words closing)

def raise (r : Rules) : Parser Statement := do
  if ← keywords? ["USING", "MESSAGE"] then
    expectSymbol "="
    return .phrase (words "RAISE USING MESSAGE = " ++ Phrase.expr (← r.expr 0))
  return .phrase (words "RAISE" ++ option " " Phrase.expr (← attempt (r.expr 0)))

def raiseError (r : Rules) : Parser Statement := do
  let args ← parenthesized do
    let message ← r.expr 0
    expectSymbol ","
    let severity ← r.expr 0
    expectSymbol ","
    let state ← r.expr 0
    let others ← (do if ← symbol? "," then commaSeparated (r.expr 0) else return [])
    return message :: severity :: state :: others
  let options ← after? "WITH" (commaSeparated do
    match ← oneOf? ["LOG", "NOWAIT", "SETERROR"] with
    | some k => return words k
    | none => expected "LOG, NOWAIT OR SETERROR raiserror option")
  return .phrase (words "RAISERROR" ++ Phrase.parens (Phrase.exprs args) ++
    option " WITH " Phrase.commas options)

-- A statement that decides which others are run, if the word begins one.
def control? (r : Rules) (k : String) : Parser (Option Statement) := do
  let word ← token
  let take (p : Parser Statement) : Parser (Option Statement) := do
    skip
    return some (← p)
  match k with
  | "IF" => take (ifStatement r word)
  | "CASE" => take (caseStatement r)
  | "WHILE" => take do return .phrase (← branch r word ["END"])
  | "RAISE" => take (raise r)
  | "RAISERROR" => take (raiseError r)
  | _ => return none

end SqlLens.Sql.Parser
