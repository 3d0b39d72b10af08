import SqlLens.Error
import SqlLens.Sql.Dialect
import SqlLens.Text.Casing

namespace SqlLens.Sql

-- The spellings of string literals.
inductive Quotation where
  | single
  | double
  | national
  | hex
  | escaped
  | unicode
  | singleByte
  | doubleByte
  | singleRaw
  | doubleRaw
deriving DecidableEq, Repr

inductive Token where
  | eof
  -- A name or keyword; `keyword` is its upper case, empty for quoted names.
  | word (text keyword : String) (quote : Option Char)
  | number (digits : String) (long : Bool)
  | string (form : Quotation) (text : String)
  | dollar (text : String) (tag : Option String)
  -- A string with delimiters of its own; `lead` is what stands before the quote.
  | delimited (lead text : String)
  | placeholder (text : String)
  -- Punctuation and operators.
  | symbol (text : String)
  -- An operator of the user's own.
  | custom (text : String)
  | other (c : Char)
deriving DecidableEq, Repr

def closingQuote : Char → Char
  | '[' => ']'
  | c   => c

namespace Token

def ofWord (text : String) : Token := .word text (Text.asciiUpper text) none

-- The keyword that the token may be read as; empty for everything but bare words.
def keyword : Token → String
  | .word _ k none => k
  | _ => ""

def isKeyword (t : Token) (k : String) : Bool := t.keyword == k

def isSymbol (t : Token) (s : String) : Bool :=
  match t with
  | .symbol s' => s' == s
  | _ => false

def isEof : Token → Bool
  | .eof => true
  | _ => false

def isWord : Token → Bool
  | .word .. => true
  | _ => false

-- How a complaint shows the token.
def text : Token → String
  | .eof => "EOF"
  | .word text _ none => text
  | .word text _ (some q) => .ofList [q] ++ text ++ .ofList [closingQuote q]
  | .number digits long => digits ++ (if long then "L" else "")
  | .string form text =>
    match form with
    | .single => "'" ++ text ++ "'"
    | .double => "\x22" ++ text ++ "\x22"
    | .national => "N'" ++ text ++ "'"
    | .hex => "X'" ++ text ++ "'"
    | .escaped => "E'" ++ text ++ "'"
    | .unicode => "U&'" ++ text ++ "'"
    | .singleByte => "B'" ++ text ++ "'"
    | .doubleByte => "B\x22" ++ text ++ "\x22"
    | .singleRaw => "R'" ++ text ++ "'"
    | .doubleRaw => "R\x22" ++ text ++ "\x22"
  | .dollar text none => "$$" ++ text ++ "$$"
  | .dollar text (some tag) => "$" ++ tag ++ "$" ++ text ++ "$" ++ tag ++ "$"
  | .delimited lead text => lead ++ "'" ++ text ++ "'"
  | .placeholder text => text
  | .symbol text => text
  | .custom text => text
  | .other c => .ofList [c]

end Token

-- A token and where it begins. `gap` is the first blank or comment in front of it.
structure Lexeme where
  token : Token
  start : Position
  gap   : Option (String × Position) := none
deriving DecidableEq, Repr

-- What is wrong with a text.
inductive Fault where
  | expected (what : String) (found : Lexeme)
  | note (text : String) (at? : Option Position)
  | tooDeep
  -- The parser ran out of steps; no text gets this far.
  | exhausted
deriving DecidableEq, Repr

def positionText (p : Position) : String :=
  " at Line: " ++ toString p.line ++ ", Column: " ++ toString p.column

def Fault.message : Fault → String
  | .expected what found =>
    "sql parser error: Expected: " ++ what ++ ", found: " ++ found.token.text ++
      (if found.token.isEof then "" else positionText found.start)
  | .note text none => "sql parser error: " ++ text
  | .note text (some p) => "sql parser error: " ++ text ++ positionText p
  | .tooDeep => "sql parser error: recursion limit exceeded"
  | .exhausted => "sql parser error: too many steps"

end SqlLens.Sql
