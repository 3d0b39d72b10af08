namespace SqlLens.Text

-- The code point `c` lies in one of the closed intervals.
def inRanges (ranges : List (Nat × Nat)) (c : Char) : Bool :=
  ranges.any fun r => r.1 ≤ c.toNat && c.toNat ≤ r.2

end SqlLens.Text
