import Mathlib.Data.List.Nodup
import Mathlib.Data.List.Sigma
import SqlLens.Proofs.Node.Path
import SqlLens.Proofs.Node.Walk

namespace SqlLens

-- The steps into a slot, with the nodes that they lead to: a position for every element of a list,
-- and none for a single node.
def Child.hops (slot : Slot) : Child → List (Step × Node)
  | .one m   => [(⟨slot, none⟩, m)]
  | .many ms => ms.zipIdx.map fun (m, i) => (⟨slot, some i⟩, m)

namespace Node

variable {n m : Node} {s : Step} {steps : List Step}

theorem mem_offspring_of_mem_children {entry : Slot × Child} (h : entry ∈ n.children)
    (hm : m ∈ entry.2.nodes) : m ∈ n.offspring :=
  List.mem_flatMap.mpr ⟨entry, h, hm⟩

theorem flatMap_attach {α β : Type} (l : List α) (f : α → List β) :
    (l.attach.flatMap fun x => f x.1) = l.flatMap f := by
  rw [← List.flatMap_map, List.attach_map_subtype_val]

-- The node and then, slot by slot and element by element, the same for each child.
def preorder (n : Node) : List Node :=
  n :: n.children.attach.flatMap fun ⟨entry, _⟩ =>
    entry.2.nodes.attach.flatMap fun ⟨m, _⟩ => m.preorder
termination_by n.size
decreasing_by exact size_lt_of_mem_offspring (mem_offspring_of_mem_children ‹_› ‹_›)

theorem preorder_eq (n : Node) :
    n.preorder = n :: n.children.flatMap fun entry => entry.2.nodes.flatMap preorder := by
  rw [preorder]
  simp only [flatMap_attach _ preorder]
  exact congrArg _ (flatMap_attach _ fun entry : Slot × Child => entry.2.nodes.flatMap preorder)

-- Facts about trees carry over from the children.
theorem recursion {P : Node → Prop} (step : ∀ n, (∀ m ∈ n.offspring, P m) → P n) (n : Node) :
    P n := by
  induction h : n.size using Nat.strongRecOn generalizing n
  case ind k hi => exact step n fun m hm => hi _ (h ▸ size_lt_of_mem_offspring hm) m rfl

theorem walk_eq_preorder (n : Node) : n.walk = n.preorder := by
  induction n using recursion
  case step n hi =>
    rw [walk_eq, preorder_eq, offspring, List.flatMap_assoc]
    congr 1
    refine List.flatMap_congr fun entry h => List.flatMap_congr fun m hm => ?_
    exact hi m (mem_offspring_of_mem_children h hm)

section Routes

-- The steps to the children, in the order in which the children are listed.
def hops (n : Node) : List (Step × Node) :=
  n.children.flatMap fun entry => Child.hops entry.1 entry.2

theorem map_hops (n : Node) : n.hops.map (·.2) = n.offspring := by
  have slot (entry : Slot × Child) : (Child.hops entry.1 entry.2).map (·.2) = entry.2.nodes := by
    obtain ⟨slot, _ | ms⟩ := entry
    case one => rfl
    case many => simp [Child.hops, Child.nodes, Function.comp_def]
  rw [hops, offspring, List.map_flatMap]
  exact List.flatMap_congr fun entry _ => slot entry

theorem mem_offspring_of_mem_hops {hop : Step × Node} (h : hop ∈ n.hops) : hop.2 ∈ n.offspring :=
  map_hops n ▸ List.mem_map_of_mem h

theorem mem_hops_iff : (s, m) ∈ n.hops ↔ n.step? s = some m := by
  have listed {slot c} : (slot, c) ∈ n.children ↔ n.child? slot = some c := by
    rw [mem_children_iff, child?_eq_held]
  obtain ⟨slot, index⟩ := s
  simp only [hops, List.mem_flatMap, Prod.exists, listed]
  constructor
  case mp =>
    rintro ⟨slot, k | ms, hc, h⟩
    case one =>
      obtain ⟨⟨⟩, rfl⟩ := Prod.mk.inj (List.mem_singleton.mp h)
      rw [step?, hc]
    case many =>
      obtain ⟨⟨m, i⟩, hm, ⟨⟩⟩ := List.mem_map.mp h
      simpa [step?, hc] using List.mem_zipIdx_iff_getElem?.mp hm
  case mpr =>
    intro h
    refine ⟨slot, ?_⟩
    unfold step? at h
    split at h
    case h_1 hc hi =>
      cases h
      cases hi
      exact ⟨.one m, hc, List.mem_singleton_self _⟩
    case h_2 ms i hc hi =>
      cases hi
      exact ⟨.many ms, hc, List.mem_map.mpr ⟨(m, i), List.mem_zipIdx_iff_getElem?.mpr h, rfl⟩⟩
    case h_3 => cases h

theorem slot_of_mem_hops {slot : Slot} {c : Child} {hop : Step × Node}
    (h : hop ∈ Child.hops slot c) : hop.1.slot = slot := by
  cases c
  case one => exact List.mem_singleton.mp h ▸ rfl
  case many =>
    obtain ⟨_, _, rfl⟩ := List.mem_map.mp h
    rfl

theorem nodup_hops (n : Node) : (n.hops.map (·.1)).Nodup := by
  rw [hops, List.map_flatMap, List.nodup_flatMap]
  constructor
  case left =>
    rintro ⟨slot, _ | ms⟩ _
    case one => exact List.nodup_singleton _
    case many =>
      have positions : (Child.hops slot (.many ms)).map (·.1) =
          (ms.zipIdx.map (·.2)).map fun i => ⟨slot, some i⟩ := by
        simp only [Child.hops, List.map_map, Function.comp_def]
      rw [positions]
      exact (List.nodup_zipIdx_map_snd ms).map fun i j e => by simpa using e
  case right =>
    refine (List.pairwise_map.mp (nodup_slots n)).imp fun {entry entry'} apart s h h' => ?_
    obtain ⟨hop, hh, rfl⟩ := List.mem_map.mp h
    obtain ⟨hop', hh', e⟩ := List.mem_map.mp h'
    exact apart (slot_of_mem_hops hh ▸ slot_of_mem_hops hh' ▸ e ▸ rfl)

-- The steps to every node of the tree: first none, for the node itself.
def routes (n : Node) : List (List Step) :=
  [] :: n.hops.attach.flatMap fun ⟨hop, _⟩ => hop.2.routes.map (hop.1 :: ·)
termination_by n.size
decreasing_by exact size_lt_of_mem_offspring (mem_offspring_of_mem_hops ‹_›)

theorem routes_eq (n : Node) :
    n.routes = [] :: n.hops.flatMap fun hop => hop.2.routes.map (hop.1 :: ·) := by
  rw [routes]
  exact congrArg _ (flatMap_attach _ fun hop : Step × Node => hop.2.routes.map (hop.1 :: ·))

theorem mem_routes_iff : steps ∈ n.routes ↔ ∃ m, n.resolve? steps = some (.one m) := by
  induction steps generalizing n
  case nil =>
    rw [routes_eq]
    simp [resolve?]
  case cons s steps hi =>
    rw [routes_eq]
    simp only [resolve?_cons_eq_one_iff, List.mem_cons, reduceCtorEq, false_or, List.mem_flatMap,
      List.mem_map, List.cons.injEq]
    constructor
    case mp =>
      rintro ⟨⟨s, k⟩, hk, steps, h, rfl, rfl⟩
      obtain ⟨m, hm⟩ := hi.mp h
      exact ⟨m, k, mem_hops_iff.mp hk, hm⟩
    case mpr =>
      rintro ⟨m, k, hk, hm⟩
      exact ⟨⟨s, k⟩, mem_hops_iff.mpr hk, steps, hi.mpr ⟨m, hm⟩, rfl, rfl⟩

theorem nodup_routes (n : Node) : n.routes.Nodup := by
  induction n using recursion
  case step n hi =>
    rw [routes_eq, List.nodup_cons, List.nodup_flatMap]
    refine ⟨by simp, fun hop h => ?_, ?_⟩
    · exact (hi _ (mem_offspring_of_mem_hops h)).map fun _ _ e => (List.cons.inj e).2
    · -- Routes that begin with different steps are different.
      refine (List.pairwise_map.mp (nodup_hops n)).imp fun {hop hop'} apart steps h h' => ?_
      obtain ⟨_, _, rfl⟩ := List.mem_map.mp h
      obtain ⟨_, _, e⟩ := List.mem_map.mp h'
      exact apart (List.cons.inj e).1.symm

theorem map_resolve?_routes (n : Node) :
    n.routes.map n.resolve? = n.walk.map fun m => some (.one m) := by
  induction n using recursion
  case step n hi =>
    rw [routes_eq, walk_eq, List.map_cons, List.map_cons, List.map_flatMap, List.map_flatMap,
      ← map_hops, List.flatMap_map]
    congr 1
    refine List.flatMap_congr fun ⟨s, m⟩ h => ?_
    rw [← hi m (mem_offspring_of_mem_hops h), List.map_map]
    refine List.map_congr_left fun steps hs => ?_
    obtain ⟨k, hk⟩ := mem_routes_iff.mp hs
    rw [hk]
    exact resolve?_cons_eq_one_iff.mpr ⟨m, mem_hops_iff.mp h, hk⟩

end Routes

end Node

namespace Path

-- The paths to all nodes of the statements, statement by statement.
def toNodes (S : List Node) : List Path :=
  S.zipIdx.flatMap fun (n, i) => n.routes.map fun steps => ⟨i, steps⟩

theorem mem_toNodes_iff {p : Path} {S : List Node} :
    p ∈ toNodes S ↔ ∃ n, p.resolve? S = some (.one n) := by
  obtain ⟨i, steps⟩ := p
  simp only [toNodes, List.mem_flatMap, Prod.exists, List.mem_zipIdx_iff_getElem?, List.mem_map,
    mk.injEq]
  constructor
  case mp =>
    rintro ⟨n, i, hn, steps, h, rfl, rfl⟩
    obtain ⟨m, hm⟩ := Node.mem_routes_iff.mp h
    exact ⟨m, by simp [resolve?, hn, hm]⟩
  case mpr =>
    rintro ⟨m, h⟩
    obtain ⟨n, hn, hm⟩ := Option.bind_eq_some_iff.mp h
    exact ⟨n, i, hn, steps, Node.mem_routes_iff.mpr ⟨m, hm⟩, rfl, rfl⟩

theorem nodup_toNodes (S : List Node) : (toNodes S).Nodup := by
  rw [toNodes, List.nodup_flatMap]
  constructor
  case left =>
    intro ⟨n, i⟩ _
    exact (Node.nodup_routes n).map fun _ _ e => (mk.inj e).2
  case right =>
    refine (List.pairwise_map.mp (List.nodup_zipIdx_map_snd S)).imp fun {_ _} apart p h h' => ?_
    obtain ⟨_, _, rfl⟩ := List.mem_map.mp h
    obtain ⟨_, _, e⟩ := List.mem_map.mp h'
    exact apart (mk.inj e).1.symm

theorem map_resolve?_toNodes (S : List Node) :
    (toNodes S).map (·.resolve? S) = (S.flatMap Node.walk).map fun n => some (.one n) := by
  have statement {entry : Node × Nat} (h : entry ∈ S.zipIdx) :
      (entry.1.routes.map fun steps => (⟨entry.2, steps⟩ : Path)).map (·.resolve? S) =
        entry.1.walk.map fun n => some (.one n) := by
    have hn := List.mem_zipIdx_iff_getElem?.mp h
    rw [← Node.map_resolve?_routes, List.map_map]
    exact List.map_congr_left fun steps _ => by simp [resolve?, hn]
  rw [toNodes, List.map_flatMap, List.map_flatMap, ← List.zipIdx_map_fst 0 S, List.flatMap_map,
    List.zipIdx_map_fst]
  exact List.flatMap_congr fun entry h => statement h

-- The walk is the recursive order of the tree. The paths that lead to single nodes are listed once
-- each in that order, and each of them leads to the node that is visited at its place.
theorem walk_along_paths (S : List Node) : (∀ n : Node, n.walk = n.preorder) ∧
    (∀ p, p ∈ toNodes S ↔ ∃ n, p.resolve? S = some (.one n)) ∧ (toNodes S).Nodup ∧
    (toNodes S).map (·.resolve? S) = (S.flatMap Node.walk).map fun n => some (.one n) :=
  ⟨Node.walk_eq_preorder, fun _ => mem_toNodes_iff, nodup_toNodes S, map_resolve?_toNodes S⟩

end Path

end SqlLens
