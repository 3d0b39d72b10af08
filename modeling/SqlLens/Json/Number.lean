import SqlLens.Decimal.Shortest
import SqlLens.Json.Value
import SqlLens.Text.Letter
import SqlLens.Text.Quoted

namespace SqlLens.Json

open Text

-- One or more digits.
def digits (cs : List Char) : Except Fault (List Char × List Char) :=
  match cs.span isAsciiDigit with
  | ([], [])   => .error .eofInValue
  | ([], _)    => .error .invalidNumber
  | (ds, rest) => .ok (ds, rest)

-- The part of a number in front of the point. A leading zero stands alone.
def integerPart (cs : List Char) : Except Fault (List Char × List Char) := do
  let (ds, rest) ← digits cs
  if ds.length > 1 && ds.head? == some '0' then .error .invalidNumber else .ok (ds, rest)

def fractionPart : List Char → Except Fault (List Char × List Char)
  | '.' :: rest => do
    let (ds, rest) ← digits rest
    return ('.' :: ds, rest)
  | rest => .ok ([], rest)

def exponentPart : List Char → Except Fault (List Char × List Char)
  | e :: rest =>
    if e == 'e' || e == 'E' then
      match rest with
      | '+' :: rest => do
        let (ds, rest) ← digits rest
        return (e :: '+' :: ds, rest)
      | '-' :: rest => do
        let (ds, rest) ← digits rest
        return (e :: '-' :: ds, rest)
      | rest => do
        let (ds, rest) ← digits rest
        return (e :: ds, rest)
    else .ok ([], e :: rest)
  | [] => .ok ([], [])

-- A whole number literal and the rest of the text.
def numeral (cs : List Char) : Except Fault (List Char × List Char) := do
  let (sign, cs) := match cs with
    | '-' :: rest => (['-'], rest)
    | cs => ([], cs)
  let (whole, cs) ← integerPart cs
  let (fraction, cs) ← fractionPart cs
  let (exponent, cs) ← exponentPart cs
  return (sign ++ whole ++ fraction ++ exponent, cs)

-- The parts of a literal: sign, digits in front of and behind the point, decimal exponent.
structure Literal where
  negative : Bool
  whole    : List Char
  fraction : List Char
  exponent : Int
  isWhole  : Bool

def Literal.ofString (literal : String) : Literal :=
  let cs := literal.toList
  let negative := cs.head? == some '-'
  let cs := if negative then cs.drop 1 else cs
  let (whole, cs) := cs.span isAsciiDigit
  let (fraction, cs') := match cs with
    | '.' :: rest => rest.span isAsciiDigit
    | rest => ([], rest)
  let exponent : Int := match cs'.drop 1 with
    | '-' :: ds => - (valueOf 10 ds : Int)
    | '+' :: ds => valueOf 10 ds
    | ds => valueOf 10 ds
  ⟨negative, whole, fraction, exponent, cs.isEmpty⟩

-- The literal as a natural number below two to the 64, if it is one.
def nat? (literal : String) : Option Nat :=
  let l := Literal.ofString literal
  let n := valueOf 10 l.whole
  if l.isWhole && !l.negative && n < Nat.pow 2 64 then some n else none

-- The name of a number in a complaint: whole numbers that fit 64 bits are integers, all others
-- are written as the floating point number next to them.
def describeNumber (literal : String) : Except Fault String :=
  let l := Literal.ofString literal
  let n := valueOf 10 l.whole
  let integer :=
    l.isWhole && (if l.negative then 0 < n && n ≤ Nat.pow 2 63 else n < Nat.pow 2 64)
  if integer then
    .ok ("integer \x60" ++ (if l.negative then "-" else "") ++ toString n ++ "\x60")
  else
    let x := Decimal.nearest (valueOf 10 (l.whole ++ l.fraction)) (l.exponent - l.fraction.length)
    if x.isFinite then
      .ok ("floating point \x60" ++ (if l.negative then "-" else "") ++ Decimal.shortest x ++ "\x60")
    else .error .numberOutOfRange

namespace Value

-- What stands here, in the words of a complaint; a break in the text comes first.
def describe : Value → Except Fault String
  | .null => .ok "null"
  | .bool b => .ok ("boolean \x60" ++ (if b then "true" else "false") ++ "\x60")
  | .number literal => describeNumber literal
  | .string s => .ok ("string " ++ Text.quoted s)
  | .array _ _ => .ok "sequence"
  | .object _ _ => .ok "map"
  | .badText f | .openText f | .badScalar f => .error f
  | .nothing eof => .error (if eof then .eofInValue else .expectedValue)
  | .noColon eof => .error (if eof then .eofInObject else .expectedColon)

-- The complaint that something else was expected here.
def mismatch (v : Value) (expected : String) : Fault :=
  match v.describe with
  | .ok found => .invalidType found expected
  | .error f  => f

end Value

end SqlLens.Json
