import SqlLens.Decimal.Shortest
import SqlLens.Text.Numeral
import SqlLens.Toml.Value

namespace SqlLens.Toml

open Text

-- Digits, with single underscores between them.
def digitRun? (isDigit : Char → Bool) : List Char → Option (List Char)
  | [] => none
  | [c] => if isDigit c then some [c] else none
  | c :: '_' :: rest => if isDigit c then (digitRun? isDigit rest).map (c :: ·) else none
  | c :: rest => if isDigit c then (digitRun? isDigit rest).map (c :: ·) else none

def based? (base : Nat) (isDigit : Char → Bool) (cs : List Char) : Option Nat :=
  (digitRun? isDigit cs).map (valueOf base)

-- A leading zero stands alone.
def whole? (cs : List Char) : Option (List Char) := do
  let ds ← digitRun? isAsciiDigit cs
  if ds.head? == some '0' && ds.length > 1 then none else some ds

-- The sign in front of a number.
def unsigned : List Char → Bool × List Char
  | '+' :: rest => (false, rest)
  | '-' :: rest => (true, rest)
  | cs => (false, cs)

-- Whole numbers have at most 128 bits.
def fits (n : Int) : Bool := -(Nat.pow 2 127 : Int) ≤ n && n < (Nat.pow 2 128 : Int)

def integer? (cs : List Char) : Option Int := do
  let n : Int ← match cs with
    | '0' :: 'x' :: ds => based? 16 isHexDigit ds
    | '0' :: 'o' :: ds => based? 8 (fun c => '0' ≤ c && c ≤ '7') ds
    | '0' :: 'b' :: ds => based? 2 (fun c => c == '0' || c == '1') ds
    | cs =>
      let (negative, ds) := unsigned cs
      (whole? ds).map fun ds => if negative then -(valueOf 10 ds : Int) else valueOf 10 ds
  if fits n then some n else none

-- The digits behind the point and the rest.
def fraction? : List Char → Option (List Char)
  | [] => some []
  | '.' :: ds => digitRun? isAsciiDigit ds
  | _ => none

def exponent? : List Char → Option Int
  | [] => some 0
  | _ :: cs =>
    let (negative, ds) := unsigned cs
    (digitRun? isAsciiDigit ds).map fun ds =>
      if negative then -(valueOf 10 ds : Int) else valueOf 10 ds

-- A number with a fraction or an exponent. It has to be in the range of doubles.
def isFloat (cs : List Char) : Bool :=
  let (_, cs) := unsigned cs
  if cs == "inf".toList || cs == "nan".toList then true
  else
    let (mantissa, power) := cs.span fun c => c != 'e' && c != 'E'
    let (front, back) := mantissa.span (· != '.')
    match whole? front, fraction? back, exponent? power with
    | some front, some back', some e =>
      !(back.isEmpty && power.isEmpty) &&
        (Decimal.nearest (valueOf 10 (front ++ back')) (e - back'.length)).isFinite
    | _, _, _ => false

-- A number of exactly two digits, up to `most`.
def twoDigits? (least most : Nat) (a b : Char) : Option Nat :=
  let n := valueOf 10 [a, b]
  if isAsciiDigit a && isAsciiDigit b && least ≤ n && n ≤ most then some n else none

def isLeapYear (y : Nat) : Bool := y % 4 == 0 && (y % 100 != 0 || y % 400 == 0)

def daysOf (year month : Nat) : Nat :=
  if month == 2 then if isLeapYear year then 29 else 28
  else if month == 4 || month == 6 || month == 9 || month == 11 then 30
  else 31

-- The rest behind a date.
def date? : List Char → Option (List Char)
  | y₁ :: y₂ :: y₃ :: y₄ :: '-' :: m₁ :: m₂ :: '-' :: d₁ :: d₂ :: rest => do
    if !([y₁, y₂, y₃, y₄].all isAsciiDigit) then none
    else
      let month ← twoDigits? 1 12 m₁ m₂
      let _ ← twoDigits? 1 (daysOf (valueOf 10 [y₁, y₂, y₃, y₄]) month) d₁ d₂
      some rest
  | _ => none

-- The rest behind the digits of a second's fraction.
def subsecond? : List Char → Option (List Char)
  | '.' :: d :: rest => if isAsciiDigit d then some (rest.dropWhile isAsciiDigit) else none
  | '.' :: [] => none
  | rest => some rest

def seconds? : List Char → Option (List Char)
  | ':' :: s₁ :: s₂ :: rest => do
    let _ ← twoDigits? 0 60 s₁ s₂
    subsecond? rest
  | rest => some rest

-- The rest behind a time of day.
def time? : List Char → Option (List Char)
  | h₁ :: h₂ :: ':' :: m₁ :: m₂ :: rest => do
    let _ ← twoDigits? 0 23 h₁ h₂
    let _ ← twoDigits? 0 59 m₁ m₂
    seconds? rest
  | _ => none

def isOffset : List Char → Bool
  | [] => true
  | ['Z'] | ['z'] => true
  | [s, h₁, h₂, ':', m₁, m₂] =>
    (s == '+' || s == '-') && (twoDigits? 0 23 h₁ h₂).isSome && (twoDigits? 0 59 m₁ m₂).isSome
  | _ => false

-- A date, a time, or both; an offset needs both.
def isDatetime (cs : List Char) : Bool :=
  match date? cs with
  | some [] => true
  | some (c :: rest) =>
    (c == 'T' || c == 't' || c == ' ') &&
      match time? rest with
      | some rest => isOffset rest
      | none => false
  | none => time? cs == some []

def scalar? (cs : List Char) : Option Value :=
  if cs == "true".toList then some (.boolean true)
  else if cs == "false".toList then some (.boolean false)
  else match integer? cs with
    | some n => some (.integer n)
    | none =>
      if isFloat cs then some .float
      else if isDatetime cs then some (.datetime (.ofList cs))
      else none

def continuesScalar (c : Char) : Bool :=
  isAsciiLetter c || isAsciiDigit c || "_+-.:".toList.contains c

-- The longest run of such characters; a time may stand behind a date and one blank.
def scalarSpan (cs : List Char) : List Char × List Char :=
  let (front, rest) := cs.span continuesScalar
  match rest with
  | ' ' :: d :: rest' =>
    if date? front == some [] && isAsciiDigit d then
      let (back, rest) := (d :: rest').span continuesScalar
      (front ++ ' ' :: back, rest)
    else (front, rest)
  | _ => (front, rest)

end SqlLens.Toml
