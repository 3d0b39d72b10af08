import SqlLens.Text.Letter

namespace SqlLens.Text

def hexValue (c : Char) : Nat :=
  if isAsciiDigit c then c.toNat - 48
  else if 'a' ≤ c && c ≤ 'f' then c.toNat - 87
  else c.toNat - 55

def hexValue? (c : Char) : Option Nat :=
  if isHexDigit c then some (hexValue c) else none

-- The number that digits spell in the given base.
def valueOf (base : Nat) (ds : List Char) : Nat :=
  ds.foldl (fun n c => n * base + hexValue c) 0

def hexDigits (n : Nat) : String := .ofList (Nat.toDigits 16 n)

-- Numbers of things stay below this.
def numberLimit : Nat := Nat.pow 2 64

-- A number as it is written: an optional plus sign and digits.
def number? (cs : List Char) : Option Nat :=
  let ds := match cs with
    | '+' :: rest => rest
    | cs => cs
  if ds.isEmpty || !ds.all isAsciiDigit then none
  else
    let n := valueOf 10 ds
    if n < numberLimit then some n else none

end SqlLens.Text
