import Mathlib
import SqlLens.Proofs.Node.Walk
import SqlLens.Proofs.Truncate.Candidate

namespace SqlLens

namespace Node

variable {n : Node} {slot : Slot} {child : Child}

theorem nodes_ne_nil_of_mem_children (h : (slot, child) ∈ n.children) : child.nodes ≠ [] := by
  rw [mem_children_iff, Option.bind_eq_some_iff] at h
  obtain ⟨held, _, h⟩ := h
  unfold Held.child? at h
  split at h
  case h_2 =>
    obtain ⟨_, _, rfl⟩ := Option.map_eq_some_iff.mp h
    simp [Child.nodes]
  case h_3 => cases h
  all_goals cases h; simp [Child.nodes]

end Node

open scoped List

namespace Candidate

namespace Site

variable {S : List Node} {s t : Site} {n : Node} {path : Path} {sites : List Site}

-- The nodes in the slot and below it.
def weight (s : Site) : Nat := Node.sizeList s.child.nodes

def weights (sites : List Site) : Nat := Node.sizeList (sites.flatMap (·.child.nodes))

@[simp]
theorem weights_append (sites sites' : List Site) :
    weights (sites ++ sites') = weights sites + weights sites' := by
  simp [weights]

@[simp]
theorem weights_cons (s : Site) (sites : List Site) :
    weights (s :: sites) = s.weight + weights sites := by
  simp [weights, weight]

theorem weight_le_weights (h : s ∈ sites) : s.weight ≤ weights sites := by
  induction h
  case head => simp
  case tail hi => exact Nat.le_trans hi (by simp)

theorem weights_ofNode (n : Node) (path : Path) : weights (ofNode n path) + 1 = n.size := by
  have nodes : (ofNode n path).flatMap (·.child.nodes) = n.offspring := by
    simp [ofNode, Node.offspring, List.flatMap_map]
  rw [weights, nodes, Node.size_eq, Nat.add_comm]

theorem weights_elements (ns : List Node) (path : Nat → Path) :
    weights (ns.mapIdx fun i n => ofNode n (path i)).flatten + ns.length = Node.sizeList ns := by
  induction ns generalizing path
  case nil => simp [weights]
  case cons n ns hi =>
    have := weights_ofNode n (path 0)
    have := hi fun i => path (i + 1)
    simp only [List.mapIdx_cons, List.flatten_cons, weights_append, List.length_cons,
      Node.sizeList_cons]
    omega

-- Going into a slot takes its nodes off and leaves what is below them.
theorem weights_below (s : Site) : weights s.below + s.child.nodes.length = s.weight := by
  unfold below weight
  cases s.child
  case one n => simpa [Child.nodes] using weights_ofNode n _
  case many ns => exact weights_elements ns _

theorem weight_lt_of_mem_below (h : t ∈ s.below) : t.weight < s.weight := by
  have := weights_below s
  have := weight_le_weights h
  by_cases empty : s.child.nodes = []
  case neg =>
    have := List.length_pos_iff.mpr empty
    omega
  case pos =>
    unfold below at h
    cases hc : s.child <;> simp_all [Child.nodes]

-- The slot and the slots inside it.
def inside (s : Site) : List Site := s :: s.below.attach.flatMap fun ⟨t, _⟩ => t.inside
termination_by s.weight
decreasing_by exact weight_lt_of_mem_below ‹_›

theorem inside_eq (s : Site) : s.inside = s :: s.below.flatMap inside := by
  rw [inside]
  simp [List.flatMap_subtype]

-- The slots of the statements themselves.
def roots (S : List Node) : List Site := (S.mapIdx fun i n => ofNode n (.root i)).flatten

-- All slots of the statements.
def all (S : List Node) : List Site := (roots S).flatMap inside

theorem nodes_ne_nil_of_mem_ofNode (h : s ∈ ofNode n path) : s.child.nodes ≠ [] := by
  simp only [ofNode, List.mem_map, Prod.exists] at h
  obtain ⟨slot, child, hc, rfl⟩ := h
  exact Node.nodes_ne_nil_of_mem_children hc

-- What is below a slot are slots of its nodes, whose paths go through it.
theorem exists_of_mem_below (h : t ∈ s.below) : ∃ n i, t ∈ ofNode n (s.path.child s.slot i) := by
  unfold below at h
  split at h
  case h_1 n _ => exact ⟨n, none, h⟩
  case h_2 =>
    have ⟨_, hl, h⟩ := List.mem_flatten.mp h
    have ⟨i, hi, hl⟩ := List.mem_mapIdx.mp hl
    subst hl
    exact ⟨_, some i, h⟩

-- Facts about slots carry over from what is below them.
theorem recursion {P : Site → Prop} (step : ∀ s, (∀ t ∈ s.below, P t) → P s) (s : Site) : P s := by
  induction h : s.weight using Nat.strongRecOn generalizing s
  case ind k hi => exact step s fun t ht => hi _ (h ▸ weight_lt_of_mem_below ht) t rfl

theorem survey_eq (filled : ∀ s ∈ sites, s.child.nodes ≠ []) (h : weights sites ≤ k) :
    survey k sites = (sites.flatMap inside).filterMap part? := by
  induction k generalizing sites
  case zero =>
    cases sites
    case nil => simp [survey]
    case cons s rest =>
      have := weights_below s
      have := List.length_pos_iff.mpr (filled s List.mem_cons_self)
      rw [weights_cons] at h
      omega
  case succ k hi =>
    cases sites
    case nil => simp [survey]
    case cons s rest =>
      obtain ⟨hs, hrest⟩ := List.forall_mem_cons.mp filled
      have := weights_below s
      have := List.length_pos_iff.mpr hs
      have filled : ∀ t ∈ s.below ++ rest, t.child.nodes ≠ [] := by
        intro t ht
        cases List.mem_append.mp ht
        case inl ht =>
          obtain ⟨_, _, ht⟩ := exists_of_mem_below ht
          exact nodes_ne_nil_of_mem_ofNode ht
        case inr ht => exact hrest t ht
      rw [weights_cons] at h
      rw [survey, hi filled (by rw [weights_append]; omega), List.flatMap_append,
        List.flatMap_cons, inside_eq, List.cons_append, List.filterMap_cons]
      cases s.part? <;> simp

theorem parts_eq (S : List Node) : parts S = (all S).filterMap part? := by
  apply survey_eq
  case filled =>
    intro s hs
    have ⟨_, hl, hs⟩ := List.mem_flatten.mp hs
    have ⟨i, hi, hl⟩ := List.mem_mapIdx.mp hl
    subst hl
    exact nodes_ne_nil_of_mem_ofNode hs
  case h => exact weights_elements S .root ▸ Nat.le_add_right _ _

section Addresses

-- The slots that are listed are those of the tree.
theorem mem_roots_iff : s ∈ roots S ↔ s.path.steps = [] ∧ s.Within S := by
  simp only [roots, List.mem_flatten, List.mem_mapIdx]
  constructor
  case mp =>
    rintro ⟨_, ⟨i, hi, rfl⟩, hs⟩
    have h : (Path.root i).resolve? S = some (.one S[i]) := by
      simp [Path.resolve?, Path.root, hi, Node.resolve?]
    refine ⟨?_, within_of_mem_ofNode h hs⟩
    simp only [ofNode, List.mem_map] at hs
    obtain ⟨_, _, rfl⟩ := hs
    rfl
  case mpr =>
    obtain ⟨parent, ⟨statement, steps⟩, slot, child⟩ := s
    rintro ⟨rfl, ⟨hp, hc⟩⟩
    obtain ⟨n, hn, h⟩ := Option.bind_eq_some_iff.mp hp
    cases h
    obtain ⟨hi, hn⟩ := List.getElem?_eq_some_iff.mp hn
    refine ⟨_, ⟨statement, hi, rfl⟩, ?_⟩
    simpa [ofNode, Path.root, hn] using hc

theorem within_of_mem_inside (w : s.Within S) (h : t ∈ s.inside) : t.Within S := by
  induction s using recursion
  case step s hi =>
    rw [inside_eq, List.mem_cons, List.mem_flatMap] at h
    obtain rfl | ⟨u, hu, ht⟩ := h
    · exact w
    · exact hi u hu (w.below hu) ht

theorem mem_inside_of_mem_below {u : Site} (ht : t ∈ s.inside) (hu : u ∈ t.below) :
    u ∈ s.inside := by
  induction s using recursion
  case step s hi =>
    rw [inside_eq, List.mem_cons, List.mem_flatMap] at ht ⊢
    obtain rfl | ⟨v, hv, ht⟩ := ht
    · exact .inr ⟨u, hu, inside_eq u ▸ List.mem_cons_self⟩
    · exact .inr ⟨v, hv, hi v hv ht⟩

theorem Within.mem_ofNode (w : s.Within S) : s ∈ ofNode s.parent s.path :=
  List.mem_map.mpr ⟨_, w.child, rfl⟩

theorem Within.mem_below (w : s.Within S) (wt : t.Within S) (hp : t.path = s.path.child s.slot i)
    (h : s.parent.content? ⟨s.slot, i⟩ = some (.one t.parent)) : t ∈ s.below := by
  have hc : s.parent.child? s.slot = some s.child :=
    Node.child?_eq_held.trans (Node.mem_children_iff.mp w.child)
  have ht := hp ▸ wt.mem_ofNode
  unfold Site.below
  cases hs : s.child <;> cases i <;>
  simp only [Node.content?, hc, hs, Option.some.injEq, Child.one.injEq, Option.map_eq_some_iff,
    reduceCtorEq] at h
  case one.none n => exact h ▸ ht
  case many.some ns i =>
    obtain ⟨_, hn, rfl⟩ := h
    obtain ⟨hi, hn⟩ := List.getElem?_eq_some_iff.mp hn
    exact List.mem_flatten.mpr ⟨_, List.mem_mapIdx.mpr ⟨i, hi, rfl⟩, hn ▸ ht⟩

theorem mem_all_iff : s ∈ all S ↔ s.Within S := by
  constructor
  case mp =>
    intro h
    obtain ⟨r, hr, hs⟩ := List.mem_flatMap.mp h
    exact within_of_mem_inside (mem_roots_iff.mp hr).2 hs
  case mpr =>
    -- The slot that the last step of the path goes through is listed, and this one is inside it.
    obtain ⟨parent, ⟨statement, steps⟩, slot, child⟩ := s
    induction steps using List.reverseRec generalizing parent slot child
    case nil =>
      intro w
      exact List.mem_flatMap.mpr ⟨_, mem_roots_iff.mpr ⟨rfl, w⟩, inside_eq _ ▸ List.mem_cons_self⟩
    case append_singleton steps step hi =>
      intro w
      obtain ⟨slot', i⟩ := step
      obtain ⟨n, hn, h⟩ := Path.exists_parent_of_resolve? (p := ⟨statement, steps⟩) w.parent
      have ⟨c, hc⟩ : ∃ c, n.child? slot' = some c := by
        rw [Node.content?] at h
        cases hc : n.child? slot'
        case none => simp [hc] at h
        case some c => exact ⟨c, rfl⟩
      have w' : Within S ⟨n, ⟨statement, steps⟩, slot', c⟩ :=
        ⟨hn, Node.mem_children_iff.mpr (Node.child?_eq_held ▸ hc)⟩
      obtain ⟨r, hr, hs⟩ := List.mem_flatMap.mp (hi n slot' c w')
      exact List.mem_flatMap.mpr ⟨r, hr, mem_inside_of_mem_below hs (w'.mem_below w rfl h)⟩

end Addresses

section Distinct

theorem path_of_mem_ofNode (h : s ∈ ofNode n path) : s.path = path := by
  simp only [ofNode, List.mem_map] at h
  obtain ⟨_, _, rfl⟩ := h
  rfl

-- What is in a slot has a location that goes through the slot.
theorem location_of_mem_inside (h : t ∈ s.inside) : t.location.statement = s.path.statement ∧
    ∃ i rest, t.location.steps = s.path.steps ++ ⟨s.slot, i⟩ :: rest := by
  induction s using recursion
  case step s hi =>
    rw [inside_eq, List.mem_cons, List.mem_flatMap] at h
    obtain rfl | ⟨u, hu, ht⟩ := h
    · exact ⟨rfl, none, [], rfl⟩
    · have ⟨_, i, hn⟩ := exists_of_mem_below hu
      have hp := path_of_mem_ofNode hn
      have ⟨statement, j, rest, steps⟩ := hi u hu ht
      exact ⟨by simp [statement, hp, Path.child], i, _, by simp [steps, hp, Path.child]; rfl⟩

-- A slot by its node's path and its name.
def address (s : Site) : Path × Slot := (s.path, s.slot)

theorem nodup_ofNode (n : Node) (path : Path) : ((ofNode n path).map address).Nodup := by
  have : (ofNode n path).map address = (n.children.map (·.1)).map fun slot => (path, slot) := by
    simp [ofNode, address, Function.comp_def]
  rw [this]
  exact (Node.nodup_slots n).map fun _ _ h => (Prod.ext_iff.mp h).2

theorem nodup_elements (ns : List Node) {path : Nat → Path} (inj : Function.Injective path) :
    ((ns.mapIdx fun i n => ofNode n (path i)).flatten.map address).Nodup := by
  rw [List.map_flatten, List.nodup_flatten]
  constructor
  case left =>
    intro l hl
    simp only [List.mem_map, List.mem_mapIdx] at hl
    obtain ⟨_, ⟨i, hi, rfl⟩, rfl⟩ := hl
    exact nodup_ofNode _ _
  case right =>
    rw [List.pairwise_iff_getElem]
    intro i j hi hj hij
    simp only [List.getElem_map, List.getElem_mapIdx]
    intro a ha hb
    obtain ⟨s, hs, rfl⟩ := List.mem_map.mp ha
    obtain ⟨t, ht, h⟩ := List.mem_map.mp hb
    have paths : path j = path i := by
      rw [← path_of_mem_ofNode hs, ← path_of_mem_ofNode ht]
      exact (Prod.ext_iff.mp h).1
    have := inj paths
    omega

theorem nodup_below (s : Site) : (s.below.map address).Nodup := by
  unfold below
  split
  case h_1 => exact nodup_ofNode _ _
  case h_2 => exact nodup_elements _ fun i j h => by simpa [Path.child] using h

-- Slots at one depth lead to different locations, each with what is inside it.
theorem nodup_flatMap_inside (nodup : (sites.map address).Nodup)
    (depth : ∀ s ∈ sites, s.path.depth = d) (each : ∀ s ∈ sites, (s.inside.map location).Nodup) :
    ((sites.flatMap inside).map location).Nodup := by
  rw [List.map_flatMap, List.nodup_flatMap]
  refine ⟨each, (List.pairwise_map.mp nodup).imp_of_mem ?_⟩
  intro s t hs ht apart l ls lt
  obtain ⟨u, hu, rfl⟩ := List.mem_map.mp ls
  obtain ⟨v, hv, h⟩ := List.mem_map.mp lt
  have ⟨us, i, r, uSteps⟩ := location_of_mem_inside hu
  have ⟨vs, j, r', vSteps⟩ := location_of_mem_inside hv
  rw [h] at vs vSteps
  have ⟨steps, tails⟩ := List.append_inj (uSteps.symm.trans vSteps)
    ((depth s hs).trans (depth t ht).symm)
  have slots := (Step.mk.inj (List.cons.inj tails).1).1
  have paths : s.path = t.path := by
    rw [Path.mk.injEq]
    exact ⟨us.symm.trans vs, steps⟩
  exact apart (Prod.ext paths slots)

theorem nodup_inside (s : Site) : (s.inside.map location).Nodup := by
  induction s using recursion
  case step s hi =>
    have depth : ∀ t ∈ s.below, t.path.depth = s.path.depth + 1 := by
      intro t ht
      obtain ⟨_, i, hn⟩ := exists_of_mem_below ht
      simp [path_of_mem_ofNode hn, Path.depth, Path.child]
    rw [inside_eq, List.map_cons, List.nodup_cons]
    refine ⟨?_, nodup_flatMap_inside (nodup_below s) depth hi⟩
    intro h
    obtain ⟨u, hu, h⟩ := List.mem_map.mp h
    obtain ⟨t, ht, hu⟩ := List.mem_flatMap.mp hu
    obtain ⟨_, i, r, steps⟩ := location_of_mem_inside hu
    have := depth t ht
    have := congrArg List.length (h ▸ steps)
    simp only [location, Path.child, Path.depth, List.length_append, List.length_cons] at *
    simp at *
    omega

-- No slot is listed twice.
theorem nodup_all (S : List Node) : ((all S).map location).Nodup := by
  apply nodup_flatMap_inside (d := 0)
  case nodup => exact nodup_elements S fun i j h => by simpa [Path.root] using h
  case depth =>
    intro s hs
    simp [Path.depth, (mem_roots_iff.mp hs).1]
  case each => exact fun s _ => nodup_inside s

end Distinct

section Walk

-- A slot without its path.
def content (s : Site) : Node × Slot × Child := (s.parent, s.slot, s.child)

def contents (n : Node) : List (Node × Slot × Child) := n.children.map (n, ·)

theorem contents_elements {ns : List Node} (path : Nat → Path)
    (each : ∀ n ∈ ns, ∀ path,
      ((ofNode n path).flatMap inside).map content ~ n.walk.flatMap contents) :
    ((ns.mapIdx fun i n => ofNode n (path i)).flatten.flatMap inside).map content ~
      ns.flatMap fun n => n.walk.flatMap contents := by
  induction ns generalizing path
  case nil => simp
  case cons n ns hi =>
    have ⟨hn, hns⟩ := List.forall_mem_cons.mp each
    rw [List.mapIdx_cons, List.flatten_cons, List.flatMap_append, List.map_append,
      List.flatMap_cons]
    exact (hn _).append (hi (fun i => path (i + 1)) hns)

-- The slots of a node and everything below it are those of the nodes that are walked.
theorem contents_walk (n : Node) (path : Path) :
    ((ofNode n path).flatMap inside).map content ~ n.walk.flatMap contents := by
  induction h : n.size using Nat.strongRecOn generalizing n path
  case ind k hi =>
    have each : ∀ entry ∈ n.children,
        ((below ⟨n, path, entry.1, entry.2⟩).flatMap inside).map content ~
          entry.2.nodes.flatMap fun m => m.walk.flatMap contents := by
      intro ⟨slot, child⟩ hc
      have smaller : ∀ m ∈ child.nodes, m.size < k := fun m hm =>
        h ▸ Node.size_lt_of_mem_offspring (List.mem_flatMap.mpr ⟨_, hc, hm⟩)
      cases child
      case one m =>
        have hm := hi _ (smaller m List.mem_cons_self) m (path.child slot none) rfl
        simpa [below, location, Child.nodes] using hm
      case many ms =>
        exact contents_elements _ fun m hm path => hi _ (smaller m hm) m path rfl
    rw [Node.walk_eq, List.flatMap_cons, Node.offspring, List.flatMap_assoc, List.flatMap_assoc,
      List.map_flatMap]
    calc (ofNode n path).flatMap (fun s => s.inside.map content)
      _ = (ofNode n path).flatMap fun s => s.content :: (s.below.flatMap inside).map content := by
        simp only [inside_eq, List.map_cons]
      _ ~ (ofNode n path).map content ++
          (ofNode n path).flatMap fun s => (s.below.flatMap inside).map content :=
        (List.map_append_flatMap_perm _ _ _).symm
      _ = contents n ++ n.children.flatMap fun entry =>
          ((below ⟨n, path, entry.1, entry.2⟩).flatMap inside).map content := by
        simp [ofNode, contents, content, Function.comp_def, List.flatMap_map]
      _ ~ contents n ++ n.children.flatMap fun entry =>
          entry.2.nodes.flatMap fun m => m.walk.flatMap contents :=
        (List.Perm.flatMap_left _ each).append_left _

theorem contents_all (S : List Node) :
    (all S).map content ~ (S.flatMap Node.walk).flatMap contents := by
  rw [List.flatMap_assoc]
  exact contents_elements .root fun n _ path => contents_walk n path

end Walk

end Site

end Candidate

end SqlLens
