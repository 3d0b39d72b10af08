import SqlLens.Text.Numeral

namespace SqlLens.Text

variable {cs ds rest rest' : List Char} {c c' : Char} {m n : Nat}

theorem isAsciiDigit_eq (c : Char) : isAsciiDigit c = c.isDigit := by
  simp [isAsciiDigit, Char.isDigit, Char.le_def]

theorem isAsciiDigit_of_mem_toDigits (h : c ∈ Nat.toDigits 10 n) : isAsciiDigit c := by
  rw [isAsciiDigit_eq]
  exact Nat.isDigit_of_mem_toDigits (by decide) (by decide) h

theorem valueOf_eq_ofDigitChars (h : ∀ c ∈ ds, isAsciiDigit c) :
    valueOf 10 ds = Nat.ofDigitChars 10 ds 0 := by
  rw [valueOf]
  generalize 0 = init
  induction ds generalizing init
  case nil => rfl
  case cons d ds hi =>
    have ⟨digit, h⟩ := List.forall_mem_cons.mp h
    have value : init * 10 + hexValue d = 10 * init + (d.toNat - '0'.toNat) := by
      rw [hexValue, if_pos digit, Nat.mul_comm]
      rfl
    rw [List.foldl_cons, value, hi h]
    rfl

-- The text without the sign that may stand in front of a number.
def unsigned : List Char → List Char
  | '+' :: rest => rest
  | cs => cs

theorem number?_eq_some_iff : number? cs = some n ↔ unsigned cs ≠ [] ∧
    (∀ c ∈ unsigned cs, isAsciiDigit c) ∧ valueOf 10 (unsigned cs) = n ∧ n < numberLimit := by
  change (if (unsigned cs).isEmpty || !(unsigned cs).all isAsciiDigit then none
    else if valueOf 10 (unsigned cs) < numberLimit then some (valueOf 10 (unsigned cs)) else none)
      = some n ↔ _
  rw [← List.all_eq_true]
  split
  case isTrue h =>
    simp only [Bool.or_eq_true, List.isEmpty_iff, Bool.not_eq_true'] at h
    grind
  case isFalse h =>
    simp only [Bool.or_eq_true, List.isEmpty_iff, Bool.not_eq_true', not_or] at h
    grind

theorem unsigned_eq (h : ∀ c ∈ cs, isAsciiDigit c) : unsigned cs = cs := by
  unfold unsigned
  split
  case h_1 => exact absurd (h '+' List.mem_cons_self) (by decide)
  case h_2 => rfl

theorem number?_toDigits (h : n < numberLimit) : number? (Nat.toDigits 10 n) = some n := by
  have digits : ∀ c ∈ Nat.toDigits 10 n, isAsciiDigit c := fun c => isAsciiDigit_of_mem_toDigits
  rw [number?_eq_some_iff, unsigned_eq digits]
  refine ⟨Nat.toDigits_ne_nil, digits, ?_, h⟩
  rw [valueOf_eq_ofDigitChars digits, Nat.ofDigitChars_toDigits (by decide) (by decide)]

theorem mem_of_number? (h : number? cs = some n) (hc : c ∈ cs) : c = '+' ∨ isAsciiDigit c := by
  have ⟨_, digits, _⟩ := number?_eq_some_iff.mp h
  unfold unsigned at digits
  split at digits
  case h_1 => exact (List.mem_cons.mp hc).imp_right (digits c)
  case h_2 => exact .inr (digits c hc)

-- A run of digits ends where something else begins.
theorem toDigits_append_inj (hc : isAsciiDigit c = false) (hc' : isAsciiDigit c' = false)
    (h : Nat.toDigits 10 m ++ c :: rest = Nat.toDigits 10 n ++ c' :: rest') :
    m = n ∧ c :: rest = c' :: rest' := by
  have run {k : Nat} {c : Char} {rest : List Char} (hc : isAsciiDigit c = false) :
      (Nat.toDigits 10 k ++ c :: rest).takeWhile isAsciiDigit = Nat.toDigits 10 k := by
    rw [List.takeWhile_append_of_pos fun c => isAsciiDigit_of_mem_toDigits,
      List.takeWhile_cons_of_neg (by simp [hc]), List.append_nil]
  have same : Nat.toDigits 10 m = Nat.toDigits 10 n := by rw [← run hc, h, run hc']
  refine ⟨?_, List.append_cancel_left (same ▸ h)⟩
  rw [← Nat.ofDigitChars_toDigits (b := 10) (n := m) (by decide) (by decide), same,
    Nat.ofDigitChars_toDigits (by decide) (by decide)]

end SqlLens.Text
