import SqlLens.Proofs.Node.Path
import SqlLens.Truncate.Candidate

namespace SqlLens

-- The path ends at a slot, not at an element of a list, and the slot is filled, with a list or
-- with a single node.
structure Path.LeadsTo (p : Path) (S : List Node) (many : Bool) : Prop where
  slot   : ∃ q slot, p = child q slot none
  filled : ∃ c, p.resolve? S = some c ∧ c.isMany = many

namespace Candidate

-- The parent stands at the path and has the child in the slot.
structure Site.Within (S : List Node) (s : Site) : Prop where
  parent : s.path.resolve? S = some (.one s.parent)
  child  : (s.slot, s.child) ∈ s.parent.children

namespace Site

variable {S : List Node} {s t : Site} {n : Node} {path : Path} {p : Part}

theorem within_of_mem_ofNode (h : path.resolve? S = some (.one n)) (hs : s ∈ ofNode n path) :
    s.Within S := by
  simp only [ofNode, List.mem_map, Prod.exists] at hs
  obtain ⟨slot, child, hc, rfl⟩ := hs
  exact ⟨h, hc⟩

theorem Within.resolve?_location (w : s.Within S) : s.location.resolve? S = some s.child := by
  rw [location, Path.resolve?_child w.parent, Node.content?_eq_held]
  exact Node.mem_children_iff.mp w.child

theorem Within.resolve?_element (w : s.Within S) (h : s.child = .many ns) (hn : ns[i]? = some n) :
    (s.path.child s.slot (some i)).resolve? S = some (.one n) := by
  have hc := Node.child?_eq_held.trans (Node.mem_children_iff.mp w.child)
  simp [Path.resolve?_child w.parent, Node.content?, hc, h, hn]

theorem Within.below (w : s.Within S) (ht : t ∈ s.below) : t.Within S := by
  unfold Site.below at ht
  split at ht
  case h_1 n hc => exact within_of_mem_ofNode (hc ▸ w.resolve?_location) ht
  case h_2 ns hc =>
    have ⟨_, hl, ht⟩ := List.mem_flatten.mp ht
    have ⟨i, hi, hl⟩ := List.mem_mapIdx.mp hl
    subst hl
    exact within_of_mem_ofNode (w.resolve?_element hc (List.getElem?_eq_getElem hi)) ht

theorem Within.part? (w : s.Within S) (hp : s.part? = some p) :
    p.location.LeadsTo S p.isSequence := by
  have hl := w.resolve?_location
  unfold Site.part? at hp
  split at hp
  case h_5 => cases hp
  all_goals
    cases hp
    exact ⟨⟨_, _, rfl⟩, _, hl, by simp [Child.isMany, *]⟩

-- Every step of the survey takes a slot and leaves slots that lie in the same tree.
theorem exists_within_of_mem_survey (w : ∀ s ∈ sites, s.Within S) (hp : p ∈ survey k sites) :
    ∃ s : Site, s.Within S ∧ s.part? = some p := by
  induction k generalizing sites
  case zero => cases sites <;> simp [survey] at hp
  case succ k hi =>
    cases sites
    case nil => simp [survey] at hp
    case cons s rest =>
      have ⟨ws, wr⟩ := List.forall_mem_cons.mp w
      simp only [survey, List.mem_append, Option.mem_toList] at hp
      cases hp
      case inl hp => exact ⟨s, ws, hp⟩
      case inr hp =>
        apply hi _ hp
        intro t ht
        exact (List.mem_append.mp ht).elim ws.below (wr t)

end Site

theorem exists_within_of_mem_parts (hp : p ∈ parts S) :
    ∃ s : Site, s.Within S ∧ s.part? = some p := by
  apply Site.exists_within_of_mem_survey _ hp
  intro s hs
  have ⟨_, hl, hs⟩ := List.mem_flatten.mp hs
  have ⟨i, hi, hl⟩ := List.mem_mapIdx.mp hl
  subst hl
  apply Site.within_of_mem_ofNode _ hs
  simp [Path.resolve?, Path.root, hi, Node.resolve?]

theorem leadsTo_of_mem_parts (hp : p ∈ parts S) : p.location.LeadsTo S p.isSequence := by
  have ⟨_, w, hp⟩ := exists_within_of_mem_parts hp
  exact w.part? hp

end Candidate

theorem leadsTo_of_mem_possibleTruncations {render : Renderer}
    (h : possibleTruncations render S = .ok cs) (hc : c ∈ cs) :
    c.location.LeadsTo S c.isSequence := by
  have ⟨p, hp, h⟩ := Except.exists_of_mem_mapM h hc
  have ⟨_, _, h⟩ := Except.bind_eq_ok_iff.mp h
  cases h
  exact Candidate.leadsTo_of_mem_parts hp

end SqlLens
