import SqlLens.Proofs.Truncate.Search
import SqlLens.Truncate.Cost

namespace SqlLens.Truncate

variable {render : Renderer} {S S' : List Node} {c : Candidate} {cs rest candidates : List Candidate}
  {m n : Nat} {s text : String}

theorem replaced_cons (e : c.location.replace S c.replacement = .ok S')
    (ht : render S' = .ok text) : replaced render m (c :: rest) S =
      if text.length ≤ m then 1 else 1 + replaced render m rest S' := by
  simp [replaced, e, ht]

theorem replaced_le (render : Renderer) (m : Nat) (cs : List Candidate) (S : List Node) :
    replaced render m cs S ≤ cs.length := by
  induction cs generalizing S
  case nil => simp [replaced]
  case cons c rest hi =>
    cases e : c.location.replace S c.replacement
    case error => simp [replaced, e]
    case ok S' =>
      cases ht : render S'
      case error => simp [replaced, e, ht]
      case ok text =>
        have := hi S'
        rw [replaced_cons e ht, List.length_cons]
        split <;> omega

-- What is counted is what a search tries: its result is the last text that it tries, and without
-- one it tries them all.
theorem replaced_of_search {found : Option String} (h : search render m cs S = .ok found) :
    match found with
    | some s => textAfter render S cs (replaced render m cs S) = .ok s
    | none => replaced render m cs S = cs.length := by
  induction cs generalizing S
  case nil =>
    cases h
    rfl
  case cons c rest hi =>
    simp only [search, Except.bind_eq_ok_iff] at h
    obtain ⟨S', e, text, ht, h⟩ := h
    have e : c.location.replace S c.replacement = .ok S' := by
      cases e' : c.location.replace S c.replacement <;> rw [e'] at e <;> cases e
      rfl
    rw [replaced_cons e ht]
    split at h
    case isTrue hl =>
      cases h
      simpa [hl, textAfter_one e] using ht
    case isFalse hl =>
      have := hi h
      cases found <;> simp only [hl, if_false, Nat.add_comm 1, textAfter_cons e] <;> grind

theorem renderings_of_long (full : render S = .ok text) (long : m < text.length)
    (found : possibleTruncations render S = .ok candidates) : renderings render S m =
      .ok (1 + candidates.length + replaced render m (schedule candidates) S) := by
  have long : ¬text.length ≤ m := by omega
  simp [renderings, full, long, found]

-- A truncation renders the whole, and if that is too long, each measured part and then the texts
-- with one part after the other replaced, up to its result.
theorem renderings_of_truncate (h : truncate render S m = .ok s)
    (found : possibleTruncations render S = .ok candidates) :
    renderings render S m = .ok 1 ∧ render S = .ok s ∨
    ∃ k ≤ (schedule candidates).length,
      renderings render S m = .ok (1 + candidates.length + k) ∧
      (textAfter render S (schedule candidates) k = .ok s ∨
        k = (schedule candidates).length ∧ ∃ text, render S = .ok text ∧ s = hardCut text m) := by
  have ⟨text, full, _⟩ := Except.bind_eq_ok_iff.mp h
  by_cases fits : text.length ≤ m
  case pos =>
    cases h ▸ truncate_of_fits full fits
    exact .inl ⟨by simp [renderings, full, fits], full⟩
  case neg =>
    have long : m < text.length := by omega
    obtain ⟨_, found', searched⟩ := search_of_truncate_ok full long h
    cases found ▸ found'
    refine .inr ⟨_, replaced_le render m (schedule candidates) S,
      renderings_of_long full long found, ?_⟩
    obtain searched | ⟨searched, rfl⟩ := searched
    · exact .inl (replaced_of_search searched)
    · exact .inr ⟨replaced_of_search searched, text, full, rfl⟩

theorem length_schedule_le (candidates : List Candidate) :
    (schedule candidates).length ≤ candidates.length := by
  rw [(schedule_scheduled candidates).perm.length_eq]
  exact List.length_filter_le _ _

theorem renderings_le (found : possibleTruncations render S = .ok candidates)
    (h : renderings render S m = .ok n) : n ≤ 1 + 2 * candidates.length := by
  have ⟨text, full, _⟩ := Except.bind_eq_ok_iff.mp h
  by_cases fits : text.length ≤ m
  case pos =>
    obtain rfl : 1 = n := by simpa [renderings, full, fits] using h
    omega
  case neg =>
    cases h ▸ renderings_of_long full (by omega) found
    have := replaced_le render m (schedule candidates) S
    have := length_schedule_le candidates
    omega

end SqlLens.Truncate
