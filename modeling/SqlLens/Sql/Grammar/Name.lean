import SqlLens.Sql.Grammar.Basic
import SqlLens.Sql.Grammar.Words

namespace SqlLens.Sql

def Ident.ofToken? : Token → Option Ident
  | .word text _ quote => some ⟨text, quote⟩
  | .string .single text => some ⟨text, some '\x27'⟩
  | .string .double text => some ⟨text, some '\x22'⟩
  | _ => none

-- The inside of a string with escapes, written so that it reads back.
def escapedText : List Char → String
  | [] => ""
  | c :: cs =>
    (match c with
      | '\x27' => "\\\x27"
      | '\\' => "\\\\"
      | '\n' => "\\n"
      | '\t' => "\\t"
      | '\r' => "\\r"
      | c => .ofList [c]) ++ escapedText cs

-- Digits in upper case, with zeros in front up to a width.
def paddedHex (width n : Nat) : String :=
  let digits := (Nat.toDigits 16 n).map fun c =>
    if 'a' ≤ c && c ≤ 'f' then Char.ofNat (c.toNat - 32) else c
  .ofList (List.replicate (width - digits.length) '0' ++ digits)

-- The inside of a string of code points: what is not ASCII is written by its number.
def unicodeText : List Char → String
  | [] => ""
  | c :: cs =>
    (if c == '\x27' then "\x27\x27"
    else if c == '\\' then "\\\\"
    else if c.toNat < 128 then .ofList [c]
    else if c.toNat < 65536 then "\\" ++ paddedHex 4 c.toNat
    else "\\+" ++ paddedHex 6 c.toNat) ++ unicodeText cs

def Literal.ofToken? : Token → Option Literal
  | .number digits long => some (.number digits long)
  | .string .single text => some (.string text)
  | .string .double text => some (.other (enclosed '\x22' text))
  | .string .escaped text => some (.other ("E\x27" ++ escapedText text.toList ++ "\x27"))
  | .string .unicode text => some (.other ("U&\x27" ++ unicodeText text.toList ++ "\x27"))
  | .string form text => some (.other (Token.string form text).text)
  | .dollar text tag => some (.other (Token.dollar text tag).text)
  | .delimited lead text => some (.other (Token.delimited lead text).text)
  | .placeholder text => some (.placeholder text)
  | _ => none

-- The whole number that a text without a sign denotes, if it fits 64 bits.
def natural? (digits : String) : Except String Nat :=
  let cs := digits.toList
  if cs.isEmpty then .error "cannot parse integer from empty string"
  else if cs.all Text.isAsciiDigit then
    let n := cs.foldl (fun n c => 10 * n + (c.toNat - 48)) 0
    if n < Nat.pow 2 64 then .ok n else .error "number too large to fit in target type"
  else .error "invalid digit found in string"

namespace Parser

def ident : Parser Ident := do
  let l ← next
  match Ident.ofToken? l.token with
  | some id => return id
  | none => expectedAt "identifier" l

def name : Parser Name := separated (symbol? ".") ident

def identsInParens : Parser (List Ident) := parenthesized (commaSeparated ident)

-- A list in parentheses. Without parentheses there is nothing, unless the list is required.
def columnList (required allowEmpty : Bool) (column : Parser α) : Parser (List α) := do
  if ← symbol? "(" then
    if ← (do if allowEmpty then symbol? ")" else return false) then return []
    let columns ← commaSeparated column
    expectSymbol ")"
    return columns
  else if required then expected "a list of columns in parentheses"
  else return []

-- Strings in a row are one string where the dialect joins them.
def stringTail (text : String) : Parser String := do
  if !(← dialect).isMysql then return text
  repeated (fun text => do
    match ← token with
    | .string .single more | .string .double more =>
      skip
      return some (text ++ more)
    | _ => return none) text

-- A name that follows a mark without a blank between them.
def markedParam (mark : String) : Parser Literal := do
  let l ← next
  match l.gap, l.token with
  | some (text, start), _ => expectedAt "placeholder" ⟨.symbol text, start, none⟩
  | none, .word text _ _ => return .placeholder (mark ++ text)
  | none, .number digits false => return .placeholder (mark ++ digits)
  | none, _ => expectedAt "placeholder" l

def literal : Parser Literal := do
  let l ← next
  match l.token with
  | .word text k quote =>
    if k == "TRUE" then return .boolean true
    else if k == "FALSE" then return .boolean false
    else if k == "NULL" then return .null
    else match quote with
      | some '\x22' => return .other (enclosed '\x22' text)
      | some '\x27' => return .string text
      | some _ => expectedAt "A value?" l
      | none => expectedAt "a concrete value" l
  | .string .single text => return .string (← stringTail text)
  | .string .double text => return .other (enclosed '\x22' (← stringTail text))
  | .symbol ":" => markedParam ":"
  | .symbol "@" => markedParam "@"
  | t =>
    match Literal.ofToken? t with
    | some v => return v
    | none => expectedAt "a value" l

def numberLiteral : Parser Literal := do
  let l ← lexeme
  match ← literal with
  | .number digits long => return .number digits long
  | .placeholder text => return .placeholder text
  | _ => expectedAt "literal number" l

-- A whole number; `what` says what is missing otherwise.
def natural : Parser Nat := do
  let l ← next
  match l.token with
  | .number digits _ =>
    match natural? digits with
    | .ok n => return n
    | .error why => fail ("Could not parse '" ++ digits ++ "' as u64: " ++ why) (some l.start)
  | _ => expectedAt "literal int" l

def stringLiteral : Parser String := do
  let l ← next
  match l.token with
  | .word text _ _ | .string .single text | .string .double text | .string .unicode text =>
    return text
  | .string .escaped text =>
    if (← dialect).hasEscapedStrings then return text else expectedAt "literal string" l
  | _ => expectedAt "literal string" l

-- A name behind `AS`, or a bare word that `accepts` takes. Strings are always taken.
def alias? (accepts : Bool → String → Bool) : Parser (Option Ident) := do
  let explicit ← keyword? "AS"
  let l ← lexeme
  let found := match l.token with
    | .word text k quote => if accepts explicit k then some (Ident.mk text quote) else none
    | t => Ident.ofToken? t
  match found with
  | some id =>
    skip
    return some id
  | none => if explicit then expectedAt "an identifier after AS" l else return none

-- An alias where only some words are refused.
def aliasBut? (stops : List String) : Parser (Option Ident) :=
  alias? fun explicit k => explicit || !stops.contains k

def columnAlias? : Parser (Option Ident) := aliasBut? Words.columnStops

def tableAliasName? : Parser (Option Ident) := do
  let stops := if (← dialect).isMysql then Words.tableStops ++ Words.hintStops
    else Words.tableStops
  aliasBut? stops

end Parser

end SqlLens.Sql
