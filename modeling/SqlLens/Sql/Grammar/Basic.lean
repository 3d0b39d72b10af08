import SqlLens.Sql.Lexer
import SqlLens.Sql.Text

namespace SqlLens.Sql

-- Places in which some words change their meaning.
inductive Mode where
  | normal
  | columnDefinition
  | connectBy
deriving DecidableEq, Repr

structure ParserState where
  rest  : List Lexeme
  -- How many statements, queries and expressions may still be opened inside each other.
  depth : Nat := 50
  mode  : Mode := .normal

-- A parser takes tokens from the front of the rest, and fails with the token it did not expect.
abbrev Parser := ReaderT Dialect (StateT ParserState (Except Fault))

-- The entry points of the grammar, through which rules call each other in a circle. `expr` takes
-- the binding strength of what stands to the left.
structure Rules where
  statement : Parser Statement
  -- A statement that changes rows.
  change    : Parser Statement
  query     : Parser Query
  body      : Nat → Parser Body
  expr      : Nat → Parser Expr
  -- An expression without operators behind it.
  operand   : Parser Expr
  -- A FROM item without and with its joins.
  factor    : Parser Source
  source    : Parser Source
  -- A type, and whether it took the bracket that closes the type around it.
  dataType  : Parser (DataType × Bool)

namespace Parser

def eofLexeme : Lexeme := ⟨.eof, ⟨0, 0⟩, none⟩

def dialect : Parser Dialect := read

def lexeme : Parser Lexeme := return (← get).rest.headD eofLexeme

def lexemeAt (n : Nat) : Parser Lexeme := return (← get).rest.getD n eofLexeme

def token : Parser Token := return (← lexeme).token

def tokenAt (n : Nat) : Parser Token := return (← lexemeAt n).token

-- Steps over the next token. The end of the text stays.
def skip : Parser Unit := modify fun s =>
  match s.rest with
  | l :: l' :: rest => if l.token.isEof then s else { s with rest := l' :: rest }
  | _ => s

def next : Parser Lexeme := do
  let l ← lexeme
  skip
  return l

def expectedAt (what : String) (found : Lexeme) : Parser α := throw (.expected what found)

def expected (what : String) : Parser α := do expectedAt what (← lexeme)

def fail (text : String) (at? : Option Position := none) : Parser α := throw (.note text at?)

-- The position of the next token, if it is not the end.
def position? : Parser (Option Position) := do
  let l ← lexeme
  return if l.token.isEof then none else some l.start

def peekKeyword (k : String) : Parser Bool := return (← token).isKeyword k

def peekAny (ks : List String) : Parser Bool := return ks.contains (← token).keyword

def peekSymbol (s : String) : Parser Bool := return (← token).isSymbol s

-- Takes the keyword if it is next.
def keyword? (k : String) : Parser Bool := do
  if ← peekKeyword k then
    skip
    return true
  else return false

-- Takes all of the keywords or nothing.
def keywords? (ks : List String) : Parser Bool := do
  let next := (← get).rest.take ks.length
  if next.map (·.token.keyword) == ks then
    modify fun s => { s with rest := s.rest.drop ks.length }
    return true
  else return false

-- Takes one of the keywords if one of them is next.
def oneOf? (ks : List String) : Parser (Option String) := do
  let k := (← token).keyword
  if ks.contains k && !k.isEmpty then
    skip
    return some k
  else return none

def expectKeyword (k : String) : Parser Unit := do
  if !(← keyword? k) then expected k

def expectKeywords (ks : List String) : Parser Unit := ks.forM expectKeyword

def expectOneOf (ks : List String) : Parser String := do
  match ← oneOf? ks with
  | some k => return k
  | none => expected ("one of " ++ " or ".intercalate ks)

def symbol? (s : String) : Parser Bool := do
  if ← peekSymbol s then
    skip
    return true
  else return false

def symbols? (ss : List String) : Parser Bool := do
  let next := (← get).rest.take ss.length
  if next.length == ss.length && (next.zip ss).all fun (l, s) => l.token.isSymbol s then
    modify fun st => { st with rest := st.rest.drop ss.length }
    return true
  else return false

def expectSymbol (s : String) : Parser Unit := do
  if !(← symbol? s) then expected s

-- Runs a parser; if it fails, nothing is taken. Only the limit on depth is not forgiven.
def attempt (p : Parser α) : Parser (Option α) := fun d s =>
  match p d s with
  | .ok (a, s') => .ok (some a, s')
  | .error .tooDeep => .error .tooDeep
  | .error .exhausted => .error .exhausted
  | .error _ => .ok (none, s)

-- The result or the fault; after a fault nothing is taken.
def attempt' (p : Parser α) : Parser (Except Fault α) := fun d s =>
  match p d s with
  | .ok (a, s') => .ok (.ok a, s')
  | .error f => .ok (.error f, s)

-- Runs a parser one level deeper.
def deeper (p : Parser α) : Parser α := do
  let depth := (← get).depth
  if depth == 0 then throw .tooDeep
  modify fun s => { s with depth := depth - 1 }
  let a ← p
  modify fun s => { s with depth := depth }
  return a

def inMode (mode : Mode) (p : Parser α) : Parser α := do
  let old := (← get).mode
  modify fun s => { s with mode := mode }
  let a ← p
  modify fun s => { s with mode := old }
  return a

def iterate (step : α → Parser (Option α)) : Nat → α → Parser α
  | 0, a => pure a
  | n + 1, a => do
    match ← step a with
    | some a => iterate step n a
    | none => pure a

-- Repeats a step until it declines. Every step takes a token, so the tokens bound the repetition.
def repeated (step : α → Parser (Option α)) (a : α) : Parser α := do
  iterate step ((← get).rest.length + 1) a

-- Items for as long as `again` agrees, at least one.
def separated (again : Parser Bool) (item : Parser α) : Parser (List α) := do
  let first ← item
  let items ← repeated (fun items => do
    if ← again then return some ((← item) :: items) else return none) [first]
  return items.reverse

def commaSeparated (item : Parser α) : Parser (List α) := separated (symbol? ",") item

-- Items up to a closing symbol, possibly none.
def commaSeparated0 (item : Parser α) (closing : String) : Parser (List α) := do
  if ← peekSymbol closing then return [] else commaSeparated item

-- Items for as long as an item is found.
def many (item : Parser (Option α)) : Parser (List α) := do
  let items ← repeated (fun items => do
    match ← item with
    | some a => return some (a :: items)
    | none => return none) []
  return items.reverse

def parenthesized (p : Parser α) : Parser α := do
  expectSymbol "("
  let a ← p
  expectSymbol ")"
  return a

-- The parser's result if the keyword is next.
def after? (k : String) (p : Parser α) : Parser (Option α) := do
  if ← keyword? k then return some (← p) else return none

end Parser

end SqlLens.Sql
