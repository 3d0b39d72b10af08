import SqlLens.Proofs.Render.Reached
import SqlLens.Proofs.Truncate.Search

namespace SqlLens

open Truncate

variable {S T : List Node} {cs marks : List Candidate} {text : String}

theorem Node.hasText_truncated : Node.truncated.HasText :=
  hasText_iff_layout.mpr ⟨_, rfl, by simp⟩

theorem Candidate.hasText_replacement (c : Candidate) :
    ∀ m ∈ c.replacement.nodes, m.HasText ∧ m.assignable := by
  unfold replacement
  split <;> simp [Replacement.nodes, Node.hasText_truncated, Node.assignable, Node.wellFormed]

namespace Truncate

-- By induction on the replacements.
theorem hasText_mark (h : ∀ n ∈ S, n.HasText) (e : mark S marks = .ok T) : ∀ n ∈ T, n.HasText := by
  induction marks generalizing S
  case nil =>
    cases e
    exact h
  case cons c rest hi =>
    obtain ⟨S', hS, e⟩ := Except.bind_eq_ok_iff.mp e
    exact hi (Path.inherited_of_replace Node.hasText_inherited hS h c.hasText_replacement) e

theorem exists_sql_of_mark (full : Renderer.sql S = .ok text) (e : mark S marks = .ok T) :
    ∃ s, Renderer.sql T = .ok s :=
  Node.exists_sql_iff.mpr (hasText_mark (Node.exists_sql_iff.mp ⟨text, full⟩) e)

theorem exists_sql_of_schedule (full : Renderer.sql S = .ok text)
    (measured : possibleTruncations Renderer.sql S = .ok cs) (k : Nat) :
    ∃ T s, mark S ((schedule cs).take k) = .ok T ∧ Renderer.sql T = .ok s := by
  obtain ⟨T, hT, _⟩ := exists_mark_schedule measured k
  obtain ⟨s, hs⟩ := exists_sql_of_mark full hT
  exact ⟨T, s, hT, hs⟩

theorem exists_search (full : Renderer.sql S = .ok text)
    (measured : possibleTruncations Renderer.sql S = .ok cs) (m : Nat) :
    ∃ r, search Renderer.sql m (schedule cs) S = .ok r := by
  cases e : search Renderer.sql m (schedule cs) S
  case ok r => exact ⟨r, rfl⟩
  case error =>
    -- The search would have come upon a tree without a text.
    have spec := search_searched Renderer.sql m (schedule cs) S
    rw [e] at spec
    obtain ⟨k, _, ht, _⟩ := spec
    obtain ⟨T, s, hT, hs⟩ := exists_sql_of_schedule full measured (k + 1)
    simp [textAfter, hT, hs] at ht

theorem exists_truncate_of_measured (full : Renderer.sql S = .ok text)
    (measured : possibleTruncations Renderer.sql S = .ok cs) (m : Nat) :
    ∃ s, truncate Renderer.sql S m = .ok s := by
  by_cases long : m < text.length
  case neg => exact ⟨text, truncate_of_fits full (by omega)⟩
  case pos =>
    obtain ⟨r, searched⟩ := exists_search full measured m
    exact ⟨_, truncate_eq_of_search full long measured searched⟩

-- A truncation succeeds if the statements have a text that fits, or have one and their parts can be
-- measured. If they have a text, so has every tree on the way of the search, and every other tree
-- that comes of putting markers into them.
theorem truncate_ok_iff (S : List Node) (m : Nat) :
    ((∃ s, truncate Renderer.sql S m = .ok s) ↔
      ∃ text, Renderer.sql S = .ok text ∧
        (text.length ≤ m ∨ ∃ cs, possibleTruncations Renderer.sql S = .ok cs)) ∧
    ∀ text, Renderer.sql S = .ok text →
      (∀ cs, possibleTruncations Renderer.sql S = .ok cs →
        ∀ k, ∃ T s, mark S ((schedule cs).take k) = .ok T ∧ Renderer.sql T = .ok s) ∧
      ∀ marks T, mark S marks = .ok T → ∃ s, Renderer.sql T = .ok s := by
  refine ⟨⟨?fails, ?succeeds⟩, fun text full => ⟨?trees, ?anywhere⟩⟩
  case fails =>
    intro ⟨s, h⟩
    obtain ⟨text, full, _⟩ := Except.bind_eq_ok_iff.mp h
    refine ⟨text, full, ?_⟩
    by_cases long : m < text.length
    case neg => exact .inl (by omega)
    case pos =>
      obtain ⟨cs, measured, _⟩ := search_of_truncate_ok full long h
      exact .inr ⟨cs, measured⟩
  case succeeds =>
    rintro ⟨text, full, fits | ⟨cs, measured⟩⟩
    · exact ⟨text, truncate_of_fits full fits⟩
    · exact exists_truncate_of_measured full measured m
  case trees => exact fun cs measured => exists_sql_of_schedule full measured
  case anywhere => exact fun marks T => exists_sql_of_mark full

-- The arguments of a call with a star and the arm of a query that is no set operation are not
-- written, but the conditions in there are measured. What lacks a text there matters only for that.
theorem truncate_ok_iff_unwritten :
    let lacking : Node := .other ⟨"Unknown", none⟩
    let unwritten (cond : Node) : Node :=
      .select { op := .union, whereClause := some cond, larg := some lacking }
    let S (cond : Node) : List Node := [.select {
      targetList := [.call { name := "count", args := [lacking, unwritten cond], star := true }],
      larg := some (unwritten cond) }]
    let known : Node := .const (.boolean true)
    ((∃ s, truncate Renderer.sql (S known) 12 = .ok s) ∧
      ∃ cs, possibleTruncations Renderer.sql (S known) = .ok cs ∧
        ∃ T s, mark (S known) ((schedule cs).take 2) = .ok T ∧ Renderer.sql T = .ok s) ∧
    (∃ s, truncate Renderer.sql (S lacking) 15 = .ok s) ∧
    ¬∃ s, truncate Renderer.sql (S lacking) 12 = .ok s := by
  intro lacking unwritten S known
  have full (cond : Node) : Renderer.sql (S cond) = .ok "SELECT count(*)" := rfl
  have measured : (possibleTruncations Renderer.sql (S known)).toOption.isSome := by
    decide +kernel
  have failed : (possibleTruncations Renderer.sql (S lacking)).toOption = none := by
    decide +kernel
  refine ⟨?_, ?_, ?_⟩
  · obtain ⟨cs, found⟩ := Except.exists_of_isSome measured
    obtain ⟨ok, trees⟩ := truncate_ok_iff (S known) 12
    refine ⟨ok.mpr ⟨_, full known, .inr ⟨cs, found⟩⟩, cs, found, ?_⟩
    exact (trees _ (full known)).1 cs found 2
  · exact (truncate_ok_iff (S lacking) 15).1.mpr ⟨_, full lacking, .inl (by decide)⟩
  · intro h
    obtain ⟨text, whole, fits | ⟨cs, found⟩⟩ := (truncate_ok_iff (S lacking) 12).1.mp h
    · cases (full lacking).symm.trans whole
      exact absurd fits (by decide)
    · simp [found, Except.toOption] at failed

end Truncate

end SqlLens
