import SqlLens.Sql.Grammar.Basic
import SqlLens.Text.Quoted

namespace SqlLens.Sql

-- Groups of operators that bind alike.
inductive Binding where
  | period
  | cast
  | atTimeZone
  | times
  | plus
  | xor
  | ampersand
  | caret
  | pipe
  | colon
  | between
  | equal
  | like
  | is
  | arrow
  | not
  | and
  | or
deriving DecidableEq, Repr

namespace Binding

-- A larger number binds more tightly. Zero ends an expression.
def strength (d : Dialect) (b : Binding) : Nat :=
  if d.isPostgresql then
    match b with
    | .period => 200
    | .cast => 140
    | .atTimeZone => 110
    | .caret => 100
    | .times => 90
    | .plus => 80
    | .xor => 75
    | .ampersand | .pipe | .colon | .arrow => 70
    | .between | .like => 60
    | .equal => 50
    | .is => 40
    | .not => 30
    | .and => 20
    | .or => 10
  else
    match b with
    | .period => 100
    | .cast => 50
    | .atTimeZone => 41
    | .times => 40
    | .plus => 30
    | .xor => 24
    | .ampersand => 23
    | .caret => 22
    | .pipe | .colon => 21
    | .between | .equal => 20
    | .like => 19
    | .is => 17
    | .arrow => 16
    | .not => 15
    | .and => 10
    | .or => 5

-- Operators of the dialect with its own table that bind like arrows.
def arrows : List String :=
  ["->", "->>", "#>", "#>>", "@>", "<@", "#-", "@?", "@@", "?", "?&", "?|"]

def geometric : List String :=
  ["##", "&<", "&>", "<->", "<^", ">^", "?#", "?-", "?-|", "?||", "~=", "<<|", "|>>", "|<<", "&<|",
    "|&>", "@-@"]

def ofSymbol? (s : String) : Option Binding :=
  match s with
  | "." => some .period
  | ":=" | "=" | "<" | "<=" | "<>" | ">" | ">=" | "==" | "~" | "~*" | "!~" | "!~*" | "~~" | "~~*"
  | "!~~" | "!~~*" | "<=>" => some .equal
  | "|" => some .pipe
  | "^" | "#" | ">>" | "<<" => some .caret
  | "&" => some .ampersand
  | "+" | "-" => some .plus
  | "*" | "/" | "//" | "%" | "||" => some .times
  | "::" | "!" | "[" | "&&" | "^@" => some .cast
  | s =>
    if arrows.contains s then some .arrow
    else if geometric.contains s then some .pipe
    else none

def ofKeyword? (k : String) : Option Binding :=
  match k with
  | "OR" => some .or
  | "AND" => some .and
  | "XOR" => some .xor
  | "IS" => some .is
  | "IN" | "BETWEEN" | "OVERLAPS" | "OPERATOR" => some .between
  | "LIKE" | "ILIKE" | "RLIKE" | "REGEXP" | "MATCH" | "SIMILAR" | "MEMBER" => some .like
  | "DIV" => some .times
  | _ => none

end Binding

-- Operators that take two operands wherever they stand between them.
def plainOperators : List String :=
  ["<=>", ":=", "=", "<>", ">", ">=", "<", "<=", "+", "-", "*", "%", "||", "|", "^", "&", "/", "~",
    "~*", "!~", "!~*", "~~", "~~*", "!~~", "!~~*", "->", "->>", "#>", "#>>", "@>", "<@", "#-",
    "@?", "@@", "?", "?&", "?|"]

-- How an operator between two operands is written, if the token is one.
def binaryOperator? (d : Dialect) : Token → Option String
  | .symbol "==" => some "="
  | .symbol s =>
    if plainOperators.contains s then some s
    else match s with
      | "//" => if d.hasIntegerDivision then some s else none
      | "<<" | ">>" => if d.hasShifts then some s else none
      | "#" => if d.isPostgresql then some s else none
      | "&&" => if d.isPostgresql then some s else if d.isMysql then some "AND" else none
      | "^@" => if d.isPostgresql || d.isGeneric then some s else none
      | _ => if d.hasGeometry && Binding.geometric.contains s then some s else none
  | .custom s => some s
  | t =>
    match t.keyword with
    | "AND" => some "AND"
    | "OR" => some "OR"
    | "XOR" => some "XOR"
    | "OVERLAPS" => some "OVERLAPS"
    | _ => none

-- What a complaint about an operator without operands calls the token.
def operatorLabel : Token → String
  | .symbol "&&" => "Overlap"
  | .symbol "!" => "ExclamationMark"
  | .symbol "//" => "DuckIntDiv"
  | .symbol "<<" => "ShiftLeft"
  | .symbol ">>" => "ShiftRight"
  | .symbol "#" => "Sharp"
  | .symbol "^@" => "CaretAt"
  | .symbol "[" => "LBracket"
  | .word text k none =>
    "Word(Word \x7b value: " ++ Text.quoted text ++ ", quote_style: None, keyword: " ++ k ++
      " \x7d)"
  | t => t.text

namespace Parser

-- The binding of what comes next, if it can stand between operands.
def nextBinding? : Parser (Option Binding) := do
  let d ← dialect
  let t ← token
  let defining := (← get).mode == .columnDefinition
  match t with
  | .symbol ":" =>
    if d.isPostgresql then return none
    match ← tokenAt 1 with
    | .string .single _ | .number .. => return none
    | _ => return some .colon
  | .symbol s =>
    if d.isPostgresql && ["!", "&&", "^@", "||", "#", ">>", "<<"].contains s then
      return some .arrow
    else return Binding.ofSymbol? s
  | .custom _ => return some .arrow
  | _ =>
    match t.keyword with
    | "" => return none
    | "AT" =>
      if (← tokenAt 1).isKeyword "TIME" && (← tokenAt 2).isKeyword "ZONE" then
        return some .atTimeZone
      else return none
    | "NOT" =>
      match (← tokenAt 1).keyword with
      | "IN" | "BETWEEN" => return some .between
      | "LIKE" | "ILIKE" | "RLIKE" | "REGEXP" | "MATCH" | "SIMILAR" | "MEMBER" =>
        return some .like
      | "NULL" => return if defining then none else some .is
      | _ => return none
    | "NOTNULL" => return if d.hasNotNullOperator then some .is else none
    | k => return Binding.ofKeyword? k

-- How tightly the next token binds what stands to its left.
def nextStrength : Parser Nat := do
  let d ← dialect
  if d.isPostgresql then
    let t ← token
    if t.isSymbol "[" then return 130
    if t.isKeyword "COLLATE" && (← get).mode != .columnDefinition then return 120
  return ((← nextBinding?).map (Binding.strength d)).getD 0

def strengthOf (b : Binding) : Parser Nat := return b.strength (← dialect)

end Parser

end SqlLens.Sql
