namespace SqlLens.Decimal

-- `2 ^ e` for a whole exponent, as a fraction.
def pow2 (e : Int) : Nat × Nat :=
  if 0 ≤ e then (Nat.pow 2 e.toNat, 1) else (1, Nat.pow 2 (-e).toNat)

-- The double closest to `digits * 10 ^ exponent`. Doubles end below `10 ^ 400` and are zero below
-- `10 ^ -400`.
def nearest (digits : Nat) (exponent : Int) : Float :=
  let top := (toString digits).length + exponent
  if digits == 0 || top < -400 then 0.0
  else if 400 < top then Float.ofScientific 1 false 400
  else if exponent < 0 then Float.ofScientific digits true (-exponent).toNat
  else Float.ofScientific digits false exponent.toNat

-- A positive finite double is `mantissa * 2 ^ exponent`.
def parts (x : Float) : Nat × Int :=
  let bits := x.toBits.toNat
  let e : Nat := (bits / Nat.pow 2 52) % 2048
  let m : Nat := bits % Nat.pow 2 52
  if e == 0 then (m, -1074) else (m + Nat.pow 2 52, (e : Int) - 1075)

-- `(n, k)` with `n * 10 ^ k` inside the interval of numbers that round to the double, `n` of
-- `places` digits counted from the leading digit `10 ^ top`; the nearer of the two neighbours.
def candidate? (m : Nat) (q : Int) (top : Int) (places : Nat) : Option (Nat × Int) :=
  let k := top - (places : Int) + 1
  let (a, b) := pow2 q
  -- The value over the unit `10 ^ k`, as the fraction `num / den`.
  let num := 4 * m * a * (if k < 0 then Nat.pow 10 (-k).toNat else 1)
  let den := 4 * b * (if k < 0 then 1 else Nat.pow 10 k.toNat)
  let half := num / (4 * m) * 2
  let below := if m == Nat.pow 2 52 && q > -1074 then half / 2 else half
  let fits (n : Nat) : Bool :=
    let x := n * den
    if m % 2 == 0 then num ≤ x + below && x ≤ num + half
    else num < x + below && x < num + half
  let lo := num / den
  let hi := lo + 1
  match fits lo && lo != 0, fits hi with
  | true, true =>
    let dlo := num - lo * den
    let dhi := hi * den - num
    if dlo < dhi || (dlo == dhi && lo % 2 == 0) then some (lo, k) else some (hi, k)
  | true, false => some (lo, k)
  | false, true => some (hi, k)
  | false, false => none

-- The largest `t` with `10 ^ t` not above `m * 2 ^ q`.
def topDigit (m : Nat) (q : Int) : Int :=
  let (a, b) := pow2 q
  let n := m * a
  if b ≤ n then ((toString (n / b)).length : Int) - 1
  else
    let scaled := n * Nat.pow 10 400 / b
    ((toString scaled).length : Int) - 401

def dropZeros : Nat → Nat → Int → Nat × Int
  | 0, n, k => (n, k)
  | fuel + 1, n, k => if n % 10 == 0 && n != 0 then dropZeros fuel (n / 10) (k + 1) else (n, k)

-- Digits and exponent of the shortest decimal that reads back as the positive number.
def digits (x : Float) : Nat × Int :=
  let (m, q) := parts x
  let top := topDigit m q
  match (List.range 18).findSome? fun p => candidate? m q top (p + 1) with
  | some (n, k) => dropZeros 20 n k
  | none => (m, q)

def zeros (n : Nat) : String := .ofList (List.replicate n '0')

-- Positional from `1e-5` up to sixteen digits in front of the point, scientific outside.
def layout (n : Nat) (k : Int) : String :=
  let ds := toString n
  let len : Int := ds.length
  let kk := len + k
  if 0 ≤ k && kk ≤ 16 then ds ++ zeros k.toNat ++ ".0"
  else if 0 < kk && kk ≤ 16 then
    .ofList (ds.toList.take kk.toNat) ++ "." ++ .ofList (ds.toList.drop kk.toNat)
  else if -5 < kk && kk ≤ 0 then "0." ++ zeros (-kk).toNat ++ ds
  else
    let mantissa := if len == 1 then ds
      else .ofList (ds.toList.take 1) ++ "." ++ .ofList (ds.toList.drop 1)
    mantissa ++ "e" ++ toString (kk - 1)

-- The text of a number that is neither negative nor infinite.
def shortest (x : Float) : String :=
  if x == 0.0 then "0.0"
  else
    let (n, k) := digits x
    layout n k

end SqlLens.Decimal
