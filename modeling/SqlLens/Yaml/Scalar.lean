import SqlLens.Decimal.Shortest
import SqlLens.Text.Numeral
import SqlLens.Text.Search

namespace SqlLens.Yaml

open Text

def isReserved (s : String) : Bool :=
  ["", "~", "null", "Null", "NULL", "true", "True", "TRUE", "false", "False", "FALSE"].contains s

def unsigned : List Char → List Char
  | '+' :: rest | '-' :: rest => rest
  | cs => cs

-- Several digits with a zero in front are no number, and may be taken for one.
def leadsWithZero (cs : List Char) : Bool :=
  let ds := unsigned cs
  1 < ds.length && ds.head? == some '0' && ds.all isAsciiDigit

def isNumeral (base bound : Nat) (isDigit : Char → Bool) (ds : List Char) : Bool :=
  !ds.isEmpty && ds.all isDigit && valueOf base ds < bound

-- The digits of a whole number without its sign.
def isMagnitude (bound : Nat) : List Char → Bool
  | '0' :: 'x' :: ds => isNumeral 16 bound isHexDigit ds
  | '0' :: 'o' :: ds => isNumeral 8 bound (fun c => '0' ≤ c && c ≤ '7') ds
  | '0' :: 'b' :: ds => isNumeral 2 bound (fun c => c == '0' || c == '1') ds
  | ds => isNumeral 10 bound isAsciiDigit ds && !leadsWithZero ds

-- Whole numbers have up to 128 bits.
def isInteger : List Char → Bool
  | '-' :: ds => isMagnitude (Nat.pow 2 127 + 1) ds
  | '+' :: ds => isMagnitude (Nat.pow 2 128) ds
  | ds => isMagnitude (Nat.pow 2 128) ds

-- The power of ten behind a mantissa.
def exponent? : List Char → Option Int
  | [] => some 0
  | _ :: cs =>
    let ds := unsigned cs
    if ds.isEmpty || !ds.all isAsciiDigit then none
    else some (if cs.head? == some '-' then -(valueOf 10 ds : Int) else valueOf 10 ds)

-- A decimal in the range of doubles, without its sign.
def isDecimal (cs : List Char) : Bool :=
  let (mantissa, power) := cs.span fun c => c != 'e' && c != 'E'
  let (front, back) := mantissa.span (· != '.')
  let digits := front ++ back.drop 1
  match exponent? power with
  | some e =>
    !digits.isEmpty && digits.all isAsciiDigit &&
      (Decimal.nearest (valueOf 10 digits) (e - (back.drop 1).length)).isFinite
  | none => false

def isFloat (cs : List Char) : Bool :=
  [".inf", ".Inf", ".INF"].contains (.ofList (unsigned cs)) ||
    [".nan", ".NaN", ".NAN"].contains (.ofList cs) ||
    (!leadsWithZero cs && isDecimal (unsigned cs))

def isAmbiguous (s : String) : Bool :=
  isReserved s || leadsWithZero s.toList || isInteger s.toList || isFloat s.toList

def isBreak (c : Char) : Bool :=
  c == '\n' || c == '\r' || c == '\u0085' || c == '\u2028' || c == '\u2029'

def isSpace (c : Char) : Bool := c == ' '

-- Blanks, breaks and the end of the text set words apart.
def isGap : Option Char → Bool
  | none => true
  | some c => c == ' ' || c == '\t' || c.toNat == 0 || isBreak c

def isPrintable (c : Char) : Bool :=
  c == '\n' || (32 ≤ c.toNat && c.toNat ≤ 126) ||
    (160 ≤ c.toNat && c.toNat != 0xFEFF && c.toNat != 0xFFFE && c.toNat != 0xFFFF)

-- A character that means something at the beginning of a plain word.
def opensIndicator (c : Char) (next : Option Char) : Bool :=
  "#,[]\x7b\x7d&*!|>\x27\x22%@\x60".toList.contains c ||
    ((c == '?' || c == ':' || c == '-') && isGap next)

-- A colon in front of a gap, or a hash behind one.
def hasIndicator (previous : Char) : List Char → Bool
  | [] => false
  | c :: rest =>
    (c == ':' && isGap rest.head?) || (c == '#' && isGap (some previous)) || hasIndicator c rest

def startsDocument (cs : List Char) : Bool :=
  (stripStart? "---".toList cs).isSome || (stripStart? "...".toList cs).isSome

def isIndicated : List Char → Bool
  | [] => false
  | c :: rest => startsDocument (c :: rest) || opensIndicator c rest.head? || hasIndicator c rest

-- A character of the first class stands right in front of one of the second.
def adjoins (p q : Char → Bool) (cs : List Char) : Bool :=
  (cs.zip cs.tail).any fun (a, b) => p a && q b

def endsWith (p : Char → Bool) (cs : List Char) : Bool := cs.getLast?.any p

-- Everything can be written without escapes.
def isClear (cs : List Char) : Bool := cs.all isPrintable && !adjoins isSpace isBreak cs

def allowsPlain (cs : List Char) : Bool :=
  isClear cs && !cs.any isBreak && !cs.head?.any isSpace && !endsWith isSpace cs && !isIndicated cs

def allowsSingle (cs : List Char) : Bool := isClear cs && !adjoins isBreak isSpace cs

def allowsBlock (cs : List Char) : Bool := isClear cs && !endsWith isSpace cs

inductive Style where
  | plain
  | single
  | double
  | block
deriving DecidableEq, Repr

def Style.of (s : String) : Style :=
  let cs := s.toList
  if cs.contains '\n' then if allowsBlock cs then .block else .double
  else if !isAmbiguous s && allowsPlain cs then .plain
  else if allowsSingle cs then .single
  else .double

def blanks (n : Nat) : List Char := List.replicate n ' '

-- Between single quotes. A break is followed by the indentation.
def single (indent : Nat) (broken : Bool) : List Char → List Char
  | [] => if broken then blanks indent else []
  | c :: rest =>
    if isBreak c then c :: single indent true rest
    else
      (if broken then blanks indent else []) ++
        (if c == '\x27' then ['\x27', '\x27'] else [c]) ++ single indent false rest

-- The escapes that have a letter.
def letterEscape? (c : Char) : Option Char :=
  [(0, '0'), (7, 'a'), (8, 'b'), (9, 't'), (10, 'n'), (11, 'v'), (12, 'f'), (13, 'r'), (27, 'e'),
    (34, '\x22'), (92, '\\'), (133, 'N'), (0x2028, 'L'), (0x2029, 'P')].lookup c.toNat

-- Digits in upper case, zeros in front.
def hexDigits (width n : Nat) : List Char :=
  let ds := (Nat.toDigits 16 n).map Char.toUpper
  List.replicate (width - ds.length) '0' ++ ds

def escape (c : Char) : List Char :=
  if isPrintable c && !isBreak c && c != '\x22' && c != '\\' then [c]
  else match letterEscape? c with
    | some letter => ['\\', letter]
    | none =>
      if c.toNat ≤ 0xFF then '\\' :: 'x' :: hexDigits 2 c.toNat
      else if c.toNat ≤ 0xFFFF then '\\' :: 'u' :: hexDigits 4 c.toNat
      else '\\' :: 'U' :: hexDigits 8 c.toNat

-- The lines of a block; every line that is not empty begins with the indentation.
def block (indent : Nat) (broken : Bool) : List Char → List Char
  | [] => []
  | c :: rest =>
    if isBreak c then c :: block indent true rest
    else (if broken then blanks indent else []) ++ c :: block indent false rest

-- The indentation is told if the first line does not show it, and so is what becomes of the breaks
-- at the end if that is not one break.
def blockHeader (cs : List Char) : List Char :=
  let hint := if cs.head?.any fun c => isSpace c || isBreak c then ['2'] else []
  let chomp := match cs.reverse with
    | [] => ['-']
    | [c] => if isBreak c then ['+'] else ['-']
    | c :: b :: _ => if !isBreak c then ['-'] else if isBreak b then ['+'] else []
  '|' :: hint ++ chomp ++ ['\n']

-- A text with the line break behind it. A block that ends in a break has it already.
def scalarLine (indent : Nat) (s : String) : String :=
  let cs := s.toList
  match Style.of s with
  | .plain => s ++ "\n"
  | .single => .ofList ('\x27' :: single indent false cs ++ ['\x27', '\n'])
  | .double => .ofList ('\x22' :: cs.flatMap escape ++ ['\x22', '\n'])
  | .block =>
    .ofList (blockHeader cs ++ block indent true cs ++ if endsWith isBreak cs then [] else ['\n'])

end SqlLens.Yaml
