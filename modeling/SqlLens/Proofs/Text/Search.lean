import Mathlib.Data.List.Infix
import SqlLens.Text.Search

namespace SqlLens.Text

variable {mark cs before rest : List Char} {c : Char}

theorem stripStart?_eq_some_iff : stripStart? mark cs = some rest ↔ cs = mark ++ rest := by
  induction mark generalizing cs
  case nil => simp [stripStart?]
  case cons m mark hi =>
    cases cs
    case nil => simp [stripStart?]
    case cons c cs =>
      by_cases h : m = c
      case pos => simp [stripStart?, h, hi]
      case neg => simp [stripStart?, h, Ne.symm h]

theorem stripStart?_eq_none_iff : stripStart? mark cs = none ↔ ¬mark <+: cs := by
  simp [Option.eq_none_iff_forall_ne_some, stripStart?_eq_some_iff, List.IsPrefix,
    eq_comm (a := cs)]

theorem splitAt?_cons_eq_some_iff : splitAt? mark (c :: cs) = some (before, rest) ↔
    before = [] ∧ c :: cs = mark ++ rest ∨
      ¬mark <+: c :: cs ∧ ∃ before', before = c :: before' ∧
        splitAt? mark cs = some (before', rest) := by
  rw [splitAt?]
  cases h : stripStart? mark (c :: cs)
  case none =>
    have front := stripStart?_eq_none_iff.mp h
    have other : c :: cs ≠ mark ++ rest := fun e => front ⟨rest, e.symm⟩
    simp only [Option.map_eq_some_iff, Prod.exists, Prod.mk.injEq, other, and_false, false_or,
      front, not_false_eq_true, true_and]
    grind
  case some rest' =>
    have e := stripStart?_eq_some_iff.mp h
    have front : mark <+: c :: cs := ⟨rest', e.symm⟩
    simp only [e, Option.some.injEq, Prod.mk.injEq, List.append_cancel_left_eq]
    simp [eq_comm]

-- No occurrence ends before the one at which the text is split.
theorem splitAt?_eq_some_iff (ne : mark ≠ []) : splitAt? mark cs = some (before, rest) ↔
    cs = before ++ (mark ++ rest) ∧ ¬mark <:+: (before ++ mark).dropLast := by
  have pos := List.length_pos_of_ne_nil ne
  induction cs generalizing before
  case nil => simp [splitAt?, ne]
  case cons c cs hi =>
    have shorter (b : List Char) : (c :: b ++ mark).dropLast = c :: (b ++ mark).dropLast :=
      List.dropLast_cons_of_ne_nil (by simp [ne])
    have part (b : List Char) : c :: (b ++ mark).dropLast <+: c :: (b ++ (mark ++ rest)) := by
      rw [← shorter, ← List.append_assoc, ← List.cons_append]
      exact (List.dropLast_prefix _).trans (List.prefix_append _ _)
    rw [splitAt?_cons_eq_some_iff]
    constructor
    case mp =>
      rintro (⟨rfl, e⟩ | ⟨front, b, rfl, h⟩)
      · refine ⟨e, fun inside => ?_⟩
        have := inside.length_le
        simp only [List.nil_append, List.length_dropLast] at this
        omega
      · obtain ⟨rfl, first⟩ := hi.mp h
        rw [shorter, List.infix_cons_iff, not_or]
        exact ⟨rfl, fun early => front (early.trans (part b)), first⟩
    case mpr =>
      rintro ⟨e, first⟩
      cases before
      case nil => exact .inl ⟨rfl, e⟩
      case cons b bs =>
        obtain ⟨rfl, rfl⟩ := List.cons.inj e
        rw [shorter, List.infix_cons_iff, not_or] at first
        refine .inr ⟨fun early => first.1 ?_, bs, rfl, hi.mpr ⟨rfl, first.2⟩⟩
        refine List.prefix_of_prefix_length_le early (part bs) ?_
        simp only [List.length_cons, List.length_dropLast, List.length_append]
        omega

theorem splitAt?_append (ne : mark ≠ []) (h : splitAt? mark cs = some (before, rest))
    (more : List Char) : splitAt? mark (cs ++ more) = some (before, rest ++ more) := by
  rw [splitAt?_eq_some_iff ne] at h ⊢
  exact ⟨by rw [h.1, List.append_assoc, List.append_assoc], h.2⟩

theorem splitAt?_eq_none_iff : splitAt? mark cs = none ↔ ¬mark <:+: cs := by
  induction cs
  case nil => cases mark <;> simp [splitAt?]
  case cons c cs hi =>
    rw [splitAt?, List.infix_cons_iff, not_or, ← stripStart?_eq_none_iff, ← hi]
    cases stripStart? mark (c :: cs) <;> simp

end SqlLens.Text
