import Mathlib.Data.List.Pairwise
import SqlLens.Truncate.Basic

namespace SqlLens.Truncate

-- The parts of one depth and one length.
def ties (depth length : Nat) (cs : List Candidate) : List Candidate :=
  cs.filter fun c => c.location.depth = depth ∧ c.length = length

-- The candidates of at least three characters: the deeper first, among equally deep ones the
-- longer, and those that tie as they were found.
structure Scheduled (candidates cs : List Candidate) : Prop where
  perm   : cs.Perm (candidates.filter fun c => 3 ≤ c.length)
  sorted : cs.Pairwise fun a b => b.location.depth < a.location.depth ∨
    (a.location.depth = b.location.depth ∧ b.length ≤ a.length)
  stable : ∀ depth length,
    ties depth length cs = ties depth length (candidates.filter fun c => 3 ≤ c.length)

variable {candidates cs cs' : List Candidate} {a b c : Candidate}

theorem before_iff : before a b ↔ b.location.depth < a.location.depth ∨
    (a.location.depth = b.location.depth ∧ b.length ≤ a.length) := by
  simp [before]

theorem before_trans (a b c : Candidate) (hab : before a b) (hbc : before b c) : before a c := by
  rw [before_iff] at *
  omega

theorem before_total (a b : Candidate) : before a b || before b a := by
  rw [Bool.or_eq_true, before_iff, before_iff]
  omega

theorem ties_mergeSort (depth length : Nat) :
    ties depth length (cs.mergeSort before) = ties depth length cs := by
  have tied : (ties depth length cs).Pairwise (before · ·) := by
    apply List.pairwise_of_forall_mem_list
    intro a ha b hb
    simp only [ties, List.mem_filter, decide_eq_true_eq] at ha hb
    rw [before_iff]
    omega
  have sub : (ties depth length cs).Sublist (cs.mergeSort before) :=
    List.sublist_mergeSort before_trans before_total tied List.filter_sublist
  have sub : (ties depth length cs).Sublist (ties depth length (cs.mergeSort before)) := by
    simpa [ties] using sub.filter fun c => c.location.depth = depth ∧ c.length = length
  have perm : (ties depth length (cs.mergeSort before)).Perm (ties depth length cs) :=
    (List.mergeSort_perm cs before).filter _
  exact (sub.eq_of_length perm.length_eq.symm).symm

theorem ties_filter (depth length : Nat) :
    ties depth length (cs.filter p) = (ties depth length cs).filter p := by
  simp only [ties, List.filter_filter, Bool.and_comm]

theorem schedule_scheduled (candidates : List Candidate) :
    Scheduled candidates (schedule candidates) where
  perm := (List.mergeSort_perm candidates before).filter _
  sorted := by
    have h := List.pairwise_mergeSort before_trans before_total candidates
    exact (h.imp before_iff.mp).filter _
  stable := by
    intro depth length
    unfold schedule
    rw [ties_filter, ties_filter, ties_mergeSort]
    rfl

theorem before_of_mem_cons (hs : (c :: cs).Pairwise (before · ·)) (h : a ∈ c :: cs) :
    before c a := by
  obtain rfl | h := List.mem_cons.mp h
  · simpa using before_total a a
  · exact List.rel_of_pairwise_cons hs h

-- Both lists begin with the same part: each head comes before the other one, so the heads tie,
-- and what ties stands in the same order in both.
theorem eq_of_ties_eq (hp : cs.Perm cs') (hs : cs.Pairwise (before · ·))
    (hs' : cs'.Pairwise (before · ·)) (ht : ∀ d l, ties d l cs = ties d l cs') : cs = cs' := by
  induction cs generalizing cs'
  case nil => exact hp.nil_eq
  case cons c cs hi =>
    cases cs'
    case nil => exact hp.eq_nil
    case cons c' cs' =>
      have hc  := before_iff.mp <| before_of_mem_cons hs (hp.mem_iff.mpr List.mem_cons_self)
      have hc' := before_iff.mp <| before_of_mem_cons hs' (hp.mem_iff.mp List.mem_cons_self)
      have hd : c'.location.depth = c.location.depth := by omega
      have hl : c'.length = c.length := by omega
      have heads := ht c.location.depth c.length
      simp only [ties, List.filter_cons, hd, hl, and_self, decide_true, ite_true, List.cons.injEq]
        at heads
      cases heads.left
      congr 1
      apply hi hp.cons_inv hs.tail hs'.tail
      intro d l
      have h := ht d l
      simp only [ties, List.filter_cons] at h ⊢
      split at h
      case isTrue => exact List.tail_eq_of_cons_eq h
      case isFalse => exact h

theorem Scheduled.unique (h : Scheduled candidates cs) (h' : Scheduled candidates cs') :
    cs = cs' := by
  apply eq_of_ties_eq (h.perm.trans h'.perm.symm)
  · exact h.sorted.imp before_iff.mpr
  · exact h'.sorted.imp before_iff.mpr
  · intro d l
    rw [h.stable, h'.stable]

end SqlLens.Truncate
