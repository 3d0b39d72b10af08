import SqlLens.Proofs.Truncate.Search

namespace SqlLens.Truncate

-- What the entry of a statement says about it.
structure Fitted (render : Renderer) (m : Nat) (statement : Node) (r : TruncatedStatement) :
    Prop where
  -- The statement has the same entry, up to its number, where it stands alone.
  alone        : truncateStatements render [statement] m = .ok [{ r with statement := 1 }]
  text         : truncate render [statement] m = .ok r.sql
  full         : ∃ full, render [statement] = .ok full ∧ r.fullLength = full.length ∧
    (r.truncated ↔ r.sql ≠ full)
  length       : r.length = r.sql.length
  fits         : r.length ≤ m
  no_longer    : r.length ≤ r.fullLength
  overlong_iff : r.truncated ↔ m < r.fullLength
  shorter_iff  : r.truncated ↔ r.length < r.fullLength

variable {render : Renderer} {S : List Node} {s : Node} {m number : Nat} {r : TruncatedStatement}
  {results : List TruncatedStatement} {full sql : String}

theorem truncateStatement_ok_iff : truncateStatement render m number s = .ok r ↔
    ∃ full, render [s] = .ok full ∧ ∃ sql, truncate render [s] m = .ok sql ∧
      ⟨number, full.length, sql.length, sql != full, sql⟩ = r := by
  simp only [truncateStatement, Except.bind_eq_ok_iff, Except.pure_eq_ok, Except.ok.injEq]

theorem truncateStatement_of_getElem? (h : truncateStatements render S m = .ok results)
    (hs : S[i]? = some s) (hr : results[i]? = some r) :
    truncateStatement render m (i + 1) s = .ok r := by
  have each := (Except.mapM_eq_ok_iff.mp h).get
  obtain ⟨hi, rfl⟩ := List.getElem?_eq_some_iff.mp hs
  obtain ⟨hj, rfl⟩ := List.getElem?_eq_some_iff.mp hr
  simpa [Nat.add_comm] using each (i := i) (by simpa using hi) hj

theorem length_truncate_le (hm : 3 ≤ m) (h : truncate render [s] m = .ok sql) : sql.length ≤ m := by
  obtain ⟨o, y⟩ := Outcome.exists_yields h
  exact Outcome.length_le_of_yields y hm

-- What comes back is the full text or shorter than it, and shorter exactly if it had to be.
theorem truncate_full_or_shorter (hm : 3 ≤ m) (hf : render [s] = .ok full)
    (hs : truncate render [s] m = .ok sql) :
    full.length ≤ m ∧ sql = full ∨ m < full.length ∧ sql.length ≤ m ∧ sql ≠ full := by
  by_cases short : full.length ≤ m
  case pos =>
    have whole := truncate_of_fits hf short
    exact .inl ⟨short, Except.ok.inj (hs.symm.trans whole)⟩
  case neg =>
    have fits := length_truncate_le hm hs
    refine .inr ⟨Nat.lt_of_not_le short, fits, ?_⟩
    rintro rfl
    exact short fits

theorem fitted (hm : 3 ≤ m) (h : truncateStatement render m number s = .ok r) :
    Fitted render m s r := by
  obtain ⟨full, hf, sql, hs, rfl⟩ := truncateStatement_ok_iff.mp h
  have first : truncateStatement render m 1 s =
      .ok ⟨1, full.length, sql.length, sql != full, sql⟩ :=
    truncateStatement_ok_iff.mpr ⟨full, hf, sql, hs, rfl⟩
  have alone : truncateStatements render [s] m =
      .ok [⟨1, full.length, sql.length, sql != full, sql⟩] := by
    simp [truncateStatements, first]
  obtain ⟨short, rfl⟩ | ⟨long, fits, ne⟩ := truncate_full_or_shorter hm hf hs
  case inl =>
    exact ⟨alone, hs, ⟨sql, hf, rfl, by simp⟩, rfl, short, Nat.le_refl _, by simpa, by simp⟩
  case inr =>
    have less : sql.length < full.length := by omega
    exact ⟨alone, hs, ⟨full, hf, rfl, by simp⟩, rfl, fits, Nat.le_of_lt less, by simpa [ne],
      by simpa [ne]⟩

-- The entries are those of the statements in their order, counted from one, and each of them says
-- what it would say of its statement alone.
theorem truncateStatements_fitted (hm : 3 ≤ m) (h : truncateStatements render S m = .ok results) :
    results.length = S.length ∧ ∀ (i : Nat) (s : Node) (r : TruncatedStatement), S[i]? = some s →
      results[i]? = some r → r.statement = i + 1 ∧ Fitted render m s r := by
  refine ⟨?length, fun i s r hs hr => ?entry⟩
  case length => simpa using (Except.mapM_eq_ok_iff.mp h).length_eq.symm
  case entry =>
    have entry := truncateStatement_of_getElem? h hs hr
    obtain ⟨full, _, sql, _, rfl⟩ := truncateStatement_ok_iff.mp entry
    exact ⟨rfl, fitted hm entry⟩

-- The first statement is short enough; of the second, which ends in dots, only a cut fits.
theorem truncateStatements_fitted_cut :
    let render : Renderer := fun S => .ok (if Node.sizeList S < 2 then "ab" else "abcdef...")
    let whole : TruncatedStatement := ⟨1, 2, 2, false, "ab"⟩
    let cut : TruncatedStatement := ⟨2, 9, 6, true, "abc..."⟩
    let query : Node := .select { whereClause := some .star }
    truncateStatements render [.star, query] 6 = .ok [whole, cut] ∧ 3 ≤ 6 ∧
      cut.statement = 2 ∧ Fitted render 6 query cut := by
  intro render whole cut query
  have h : truncateStatements render [.star, query] 6 = .ok [whole, cut] := by cbv
  exact ⟨h, by decide, (truncateStatements_fitted (by decide) h).2 1 query cut rfl rfl⟩

end SqlLens.Truncate
