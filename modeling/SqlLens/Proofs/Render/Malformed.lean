import SqlLens.Proofs.Node.Preorder
import SqlLens.Proofs.Render.Reached

namespace SqlLens.Node

-- The node and the slot in which another node stands. The root of a tree has no place.
abbrev Place := Option (Node × Slot)

-- `Written n place m`: what is written of `n` contains `m`, which stands in `place`.
inductive Written (n : Node) : Place → Node → Prop
  | root : Written n none n
  | child : Written n place m → (slot, child) ∈ m.children → m.reaches slot → c ∈ child.nodes →
      Written n (some (m, slot)) c

-- Whether the node lacks a part without which it cannot be written where it stands.
def malformed : Place → Node → Bool
  | some (.update _, .targetList), n => !n.assignable
  | _, n => !n.wellFormed

variable {n m c : Node} {place place' : Place} {slot : Slot}

theorem malformed_none (n : Node) : malformed none n = !n.wellFormed := rfl

theorem malformed_assignment (u : Update Node) (n : Node) :
    malformed (some (.update u, .targetList)) n = !n.assignable := rfl

theorem malformed_below (h : ∀ u, m = .update u → slot ≠ .targetList) :
    malformed (some (m, slot)) n = !n.wellFormed := by
  unfold malformed
  split
  case h_1 u e =>
    cases e
    exact absurd rfl (h u rfl)
  case h_2 => rfl

-- A node that is malformed by itself is so in every place.
theorem malformed_anywhere (h : malformed none n) : malformed place n := by
  rw [malformed_none, Bool.not_eq_true'] at h
  unfold malformed
  split
  case h_1 =>
    cases n
    case target t => simp_all [wellFormed, assignable]
    all_goals simp [assignable, h]
  case h_2 => simp [h]

theorem mem_assignments_iff {u : Update Node} : n ∈ u.targetList ↔
    ∃ child, (.targetList, child) ∈ (Node.update u).children ∧ n ∈ child.nodes := by
  simp only [mem_children_iff]
  exact Held.mem_nodes_iff (h := .many u.targetList)

-- What a node needs for its text, child by child.
theorem hasText_iff_children : n.HasText ↔ malformed none n = false ∧
    ∀ slot child, (slot, child) ∈ n.children → n.reaches slot → ∀ c ∈ child.nodes,
      malformed (some (n, slot)) c = false ∧ c.HasText := by
  rw [hasText_iff_reached, sound_iff]
  constructor
  case mp =>
    intro ⟨⟨wellFormed, assignments⟩, below⟩
    refine ⟨by simp [malformed_none, wellFormed], fun slot child hs reaches c hc => ?_⟩
    have text : c.HasText := below c (mem_reached_iff.mpr ⟨slot, child, hs, reaches, hc⟩)
    refine ⟨?_, text⟩
    by_cases h : ∀ u, n = .update u → slot ≠ .targetList
    case pos => simp [malformed_below h, text.wellFormed]
    case neg =>
      push Not at h
      obtain ⟨u, rfl, rfl⟩ := h
      have assigned : c ∈ u.targetList := mem_assignments_iff.mpr ⟨child, hs, hc⟩
      simp [malformed_assignment, assignments u rfl c assigned]
  case mpr =>
    intro ⟨here, below⟩
    refine ⟨⟨by simpa [malformed_none] using here, ?_⟩, ?_⟩
    · rintro u rfl t ht
      obtain ⟨child, hs, ht⟩ := mem_assignments_iff.mp ht
      simpa [malformed_assignment] using (below _ child hs rfl t ht).1
    · intro c hc
      obtain ⟨slot, child, hs, reaches, hc⟩ := mem_reached_iff.mp hc
      exact (below slot child hs reaches c hc).2

theorem Written.hasText (h : Written n place m) (hn : n.HasText) :
    malformed place m = false ∧ m.HasText := by
  induction h
  case root => exact ⟨(hasText_iff_children.mp hn).1, hn⟩
  case child hs reaches hc hi => exact (hasText_iff_children.mp hi.2).2 _ _ hs reaches _ hc

theorem Written.trans (h : Written n place c) (h' : Written c place' m) :
    Written n (place'.or place) m := by
  induction h'
  case root => exact h
  case child hs reaches hc hi => exact .child hi hs reaches hc

theorem malformed_or (h : malformed place' m) : malformed (place'.or place) m := by
  cases place'
  case none => exact malformed_anywhere h
  case some => exact h

-- By recursion over the tree.
theorem exists_malformed (h : ¬n.HasText) : ∃ place m, Written n place m ∧ malformed place m := by
  induction n using recursion
  case step n hi =>
    by_contra! sound
    refine h (hasText_iff_children.mpr ⟨by simpa using sound none n .root, ?_⟩)
    intro slot child hs reaches c hc
    have written : Written n (some (n, slot)) c := .child .root hs reaches hc
    refine ⟨by simpa using sound _ _ written, ?_⟩
    by_contra text
    obtain ⟨place, m, hm, bad⟩ := hi c (mem_offspring_of_mem_children hs hc) text
    exact sound _ _ (written.trans hm) (malformed_or bad)

-- Rendering fails exactly if something malformed is written.
theorem exists_error_iff_malformed (n : Node) :
    (∃ e, Render.node n = .error e) ↔ ∃ place m, Written n place m ∧ malformed place m := by
  have text : n.HasText ↔ ∃ s, Render.node n = .ok s := by simp [Render.node_eq_ok_iff]
  constructor
  case mp =>
    intro ⟨e, he⟩
    exact exists_malformed (by simp [text, he])
  case mpr =>
    intro ⟨place, m, written, bad⟩
    cases h : Render.node n
    case error e => exact ⟨e, rfl⟩
    case ok s => simp [(written.hasText (text.mpr ⟨s, h⟩)).1] at bad

end SqlLens.Node
