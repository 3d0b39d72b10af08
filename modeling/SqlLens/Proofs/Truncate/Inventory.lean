import SqlLens.Proofs.Render.Text
import SqlLens.Proofs.Truncate.Survey

namespace SqlLens

open scoped List

-- What leaving out the content of a slot is called, if it may be left out.
def Node.omission? : Node → Slot → Option TruncationKind
  | .select _, .targetList  => some .targetList
  | .select _, .whereClause => some .whereClause
  | .cte _, .ctequery       => some .cteQuery
  | .insert _, .cols        => some .cols
  | _, _ => none

-- The filled slots of one node that may be left out.
def Node.omissible (n : Node) : List (TruncationKind × Child) :=
  n.children.filterMap fun (slot, content) => (n.omission? slot).map (·, content)

-- How long a part is: as long as its text, and a condition longer by the words it is measured with.
-- The nodes of a list are separated as lists are.
def TruncationKind.measure (kind : TruncationKind) : Child → Except RenderFault Nat
  | .one n => return (← Render.node n).length + if kind = .whereClause then 13 else 0
  | .many ns => return (Render.joined (← Render.list ns)).length

namespace Held

@[simp]
theorem child?_many_ne_one : (many ns).child? ≠ some (.one n) := by
  cases ns <;> simp [child?]

@[simp]
theorem child?_optional_ne_many : (optional o).child? ≠ some (.many ns) := by
  cases o <;> simp [child?]

@[simp]
theorem child?_one_ne_many : (one n).child? ≠ some (.many ns) := by
  simp [child?]

end Held

namespace Candidate

namespace Site

variable {S : List Node} {s : Site}

def omission? (s : Site) : Option TruncationKind := s.parent.omission? s.slot

theorem Within.part?_eq (w : s.Within S) : s.part?.map (fun p => (p.kind, p.location)) =
    s.omission?.map (·, s.location) := by
  obtain ⟨parent, path, slot, child⟩ := s
  have hc := Node.mem_children_iff.mp w.child
  unfold Site.part?
  split <;> dsimp only at *
  case h_4 => cases parent <;> simp_all [omission?, Node.omission?, Node.held?, Node.focus?]
  case h_5 =>
    unfold omission? Node.omission?
    dsimp only
    split
    case h_5 => rfl
    all_goals cases child <;> simp_all [Node.held?, Node.focus?, Focus.held]
  all_goals simp_all [omission?, Node.omission?]

end Site

end Candidate

theorem String.length_intercalate_congr {sep sep' : String} (h : sep.length = sep'.length)
    (ss : List String) : (sep.intercalate ss).length = (sep'.intercalate ss).length := by
  induction ss
  case nil => rfl
  case cons s ss hi =>
    cases ss
    case nil => simp
    case cons t ss => simp [String.intercalate_cons_cons, hi, h]

namespace Render

theorem sql_eq_ok_iff : Renderer.sql S = .ok s ↔
    ∃ texts, list S = .ok texts ∧ "; ".intercalate texts = s := by
  simp only [Renderer.sql, render]
  cases list S <;> simp

theorem sql_singleton_eq_ok_iff : Renderer.sql [n] = .ok s ↔ node n = .ok s := by
  simp only [sql_eq_ok_iff, list]
  cases node n <;> simp

theorem node_targets_eq_ok_iff {targets : List Node} (filled : targets ≠ []) :
    node (.select { targetList := targets }) = .ok s ↔
      ∃ texts, list targets = .ok texts ∧ "SELECT " ++ joined texts = s := by
  obtain ⟨n, ns, rfl⟩ := List.exists_cons_of_ne_nil filled
  simp [node_eq_ok_iff_layout, list_eq_ok_iff, Node.layout?, Layout.select?, Layout.body?,
    Layout.selectWord, Layout.all?, Layout.part?, Layout.clause]

theorem node_cond_eq_ok_iff {cond : Node} : node (.select { whereClause := some cond }) = .ok s ↔
      ∃ text, node cond = .ok text ∧ "SELECT WHERE " ++ text = s := by
  have words : "SELECT " ++ "WHERE " = "SELECT WHERE " := by decide
  rw [node_eq_ok_iff_layout]
  simp only [← words, String.append_assoc]
  simp [node_eq_ok_iff, Node.layout?, Layout.select?, Layout.body?, Layout.selectWord, Layout.all?,
    Layout.part?, Layout.clause]

end Render

namespace Candidate

variable {S : List Node} {cs : List Candidate} {c : Candidate} {p : Part} {render : Renderer}

theorem measure_ok_iff {p : Part} {c : Candidate} {render : Renderer} : p.measure render = .ok c ↔
    ∃ text, render p.measured = .ok text ∧
      c = ⟨p.location, p.kind, text.length - p.discount, p.isSequence⟩ := by
  rw [Part.measure, Except.bind_eq_ok_iff]
  simp [eq_comm]

-- A part of a slot is measured by its own text.
theorem measure_of_part? {s : Site} (w : s.Within S) (hp : s.part? = some p)
    (h : p.measure Renderer.sql = .ok c) : c.kind.measure s.child = .ok c.length := by
  have filled := Node.nodes_ne_nil_of_mem_children w.child
  obtain ⟨text, ht, rfl⟩ := measure_ok_iff.mp h
  unfold Site.part? at hp
  split at hp
  case h_5 => cases hp
  case h_1 targets _ _ hc =>
    cases hp
    have filled : targets ≠ [] := by simpa [hc, Child.nodes] using filled
    rw [Render.sql_singleton_eq_ok_iff, Render.node_targets_eq_ok_iff filled] at ht
    obtain ⟨texts, ht, rfl⟩ := ht
    simp [TruncationKind.measure, ht, hc, selectWordLength]
  case h_2 cond _ _ hc =>
    cases hp
    rw [Render.sql_singleton_eq_ok_iff, Render.node_cond_eq_ok_iff] at ht
    obtain ⟨text, ht, rfl⟩ := ht
    have words : "SELECT WHERE ".length = 13 := by decide
    simp [TruncationKind.measure, ht, hc, words, Nat.add_comm]
  case h_3 query _ _ hc =>
    cases hp
    rw [Render.sql_singleton_eq_ok_iff] at ht
    simp [TruncationKind.measure, ht, hc]
  case h_4 cols _ hc =>
    cases hp
    obtain ⟨texts, hl, rfl⟩ := Render.sql_eq_ok_iff.mp ht
    have hl : Render.list cols = .ok texts := hl
    have same : (Render.joined texts).length = ("; ".intercalate texts).length :=
      String.length_intercalate_congr (by decide) texts
    simp [TruncationKind.measure, hl, hc, same]

-- Measuring leaves everything else of a part as it is.
theorem map_of_measured (h : possibleTruncations render S = .ok cs) :
    cs.map (fun c => (c.kind, c.location)) = (parts S).map fun p => (p.kind, p.location) := by
  have measured := Except.mapM_eq_ok_iff.mp h
  clear h
  generalize parts S = ps at measured ⊢
  induction measured
  case nil => rfl
  case cons hc _ hi =>
    obtain ⟨_, _, rfl⟩ := measure_ok_iff.mp hc
    simp [hi]

theorem map_eq_filterMap_all (h : possibleTruncations render S = .ok cs) :
    cs.map (fun c => (c.kind, c.location)) =
      (Site.all S).filterMap fun s => s.omission?.map (·, s.location) := by
  rw [map_of_measured h, Site.parts_eq, List.map_filterMap]
  exact List.filterMap_congr fun s hs => (Site.mem_all_iff.mp hs).part?_eq

theorem mem_iff (h : possibleTruncations render S = .ok cs) (path : Path) (slot : Slot)
    (kind : TruncationKind) : (∃ c ∈ cs, c.location = path.child slot none ∧ c.kind = kind) ↔
      ∃ n : Node, path.resolve? S = some (.one n) ∧ (n.child? slot).isSome ∧
        n.omission? slot = some kind := by
  have listed : (∃ c ∈ cs, c.location = path.child slot none ∧ c.kind = kind) ↔
      (kind, path.child slot none) ∈ cs.map fun c => (c.kind, c.location) := by
    simp [and_comm]
  rw [listed, map_eq_filterMap_all h, List.mem_filterMap]
  constructor
  case mp =>
    rintro ⟨s, hs, e⟩
    have w := Site.mem_all_iff.mp hs
    simp only [Option.map_eq_some_iff, Prod.mk.injEq] at e
    obtain ⟨_, hk, rfl, hl⟩ := e
    obtain ⟨rfl, rfl, _⟩ := Path.child_inj.mp hl
    exact ⟨s.parent, w.parent, by simp [Node.child?_eq_held, Node.mem_children_iff.mp w.child], hk⟩
  case mpr =>
    rintro ⟨n, hn, hc, hk⟩
    obtain ⟨child, hc⟩ := Option.isSome_iff_exists.mp hc
    have w : Site.Within S ⟨n, path, slot, child⟩ :=
      ⟨hn, Node.mem_children_iff.mpr (Node.child?_eq_held ▸ hc)⟩
    exact ⟨_, Site.mem_all_iff.mpr w, by simp [Site.omission?, hk, Site.location]⟩

theorem nodup_locations (h : possibleTruncations render S = .ok cs) :
    (cs.map Candidate.location).Nodup := by
  have kept : cs.map Candidate.location =
      ((Site.all S).filter (·.omission?.isSome)).map Site.location := by
    have := congrArg (List.map Prod.snd) (map_eq_filterMap_all h)
    rw [List.map_map, List.map_filterMap] at this
    rw [← List.filterMap_eq_filter, List.map_filterMap]
    refine this.trans (List.filterMap_congr fun s _ => ?_)
    cases h : s.omission? <;> simp [Option.guard, h]
  rw [kept]
  exact (Site.nodup_all S).sublist (List.filter_sublist.map _)

theorem perm_omissible (h : possibleTruncations render S = .ok cs) :
    cs.map (fun c => (c.kind, c.location.resolve? S)) ~
      (S.flatMap Node.walk).flatMap fun n =>
        n.omissible.map fun (kind, content) => (kind, some content) := by
  have found : cs.map (fun c => (c.kind, c.location.resolve? S)) =
      ((Site.all S).map Site.content).filterMap fun (n, slot, content) =>
        (n.omission? slot).map (·, some content) := by
    have := congrArg (List.map (Prod.map id fun p : Path => p.resolve? S)) (map_eq_filterMap_all h)
    rw [List.map_map, List.map_filterMap] at this
    rw [List.filterMap_map]
    refine this.trans (List.filterMap_congr fun s hs => ?_)
    have hl := (Site.mem_all_iff.mp hs).resolve?_location
    simp [Site.content, Site.omission?, Function.comp_def, hl]
  have inside (n : Node) : n.omissible.map (fun (kind, content) => (kind, some content)) =
      (Site.contents n).filterMap fun (n, slot, content) =>
        (n.omission? slot).map (·, some content) := by
    simp [Node.omissible, Site.contents, List.map_filterMap, List.filterMap_map, Function.comp_def]
  simp only [found, inside, ← List.filterMap_flatMap]
  exact (Site.contents_all S).filterMap _

-- The candidates of a tree.
structure Inventory (S : List Node) (cs : List Candidate) : Prop where
  -- Every slot that may be left out, of all nodes that are visited, is a candidate exactly once, and
  -- nothing else is.
  exact : cs.map (fun c => (c.kind, c.location.resolve? S)) ~
    (S.flatMap Node.walk).flatMap fun n =>
      n.omissible.map fun (kind, content) => (kind, some content)
  -- The candidates by their locations.
  located : ∀ (path : Path) slot kind,
    (∃ c ∈ cs, c.location = path.child slot none ∧ c.kind = kind) ↔ ∃ n : Node,
      path.resolve? S = some (.one n) ∧ (n.child? slot).isSome ∧ n.omission? slot = some kind
  distinct : (cs.map Candidate.location).Nodup
  resolved : ∀ c ∈ cs, ∃ content, c.location.resolve? S = some content ∧
    content.isMany = c.isSequence
  -- A slot comes right before what is inside it.
  ordered : cs.map (fun c => (c.kind, c.location)) =
    (Site.all S).filterMap fun s => s.omission?.map (·, s.location)

-- Whatever measures them, the candidates are those of the tree, and with the renderer of this library
-- each of them has the length of its own text.
theorem inventory (h : possibleTruncations render S = .ok cs) : Inventory S cs ∧
    (render = Renderer.sql → ∀ c ∈ cs, ∀ content, c.location.resolve? S = some content →
      c.kind.measure content = .ok c.length) := by
  constructor
  case left => exact {
    exact    := perm_omissible h
    located  := mem_iff h
    distinct := nodup_locations h
    resolved := fun _ hc => (leadsTo_of_mem_possibleTruncations h hc).filled
    ordered  := map_eq_filterMap_all h }
  case right =>
    rintro rfl c hc content hr
    have ⟨p, hp, hm⟩ := Except.exists_of_mem_mapM h hc
    have ⟨s, w, hs⟩ := exists_within_of_mem_parts hp
    have measured := measure_of_part? w hs hm
    obtain ⟨_, _, rfl⟩ := measure_ok_iff.mp hm
    have hl : p.location = s.location := by
      have := w.part?_eq
      rw [hs] at this
      obtain ⟨_, _, h⟩ := Option.map_eq_some_iff.mp this.symm
      exact (Prod.mk.inj h).2.symm
    cases (hl ▸ hr : s.location.resolve? S = some content).symm.trans w.resolve?_location
    exact measured

-- All kinds of candidates, two of them inside another.
theorem inventory_insert :
    let column (name : String) : Node := .target { val := some (.column ⟨[name]⟩) }
    let inner : Node := .select { targetList := [column "a", column "b"] }
    let source : Node := .select {
      withClause := some (.with ⟨false, [.cte ⟨"c", [], inner⟩]⟩)
      whereClause := some (.const (.boolean true)) }
    let S : List Node := [.insert {
      relation := .table { name := "t" }
      cols := [.target { name := some "x" }, .target { name := some "y" }]
      selectStmt := some source }]
    let p : Path := ⟨0, [⟨.selectStmt, none⟩]⟩
    let q : Path := ⟨0, [⟨.selectStmt, none⟩, ⟨.withClause, none⟩, ⟨.ctes, some 0⟩]⟩
    let cs : List Candidate := [
      ⟨⟨0, [⟨.cols, none⟩]⟩, .cols, 4, true⟩,
      ⟨q.child .ctequery none, .cteQuery, 11, false⟩,
      ⟨(q.child .ctequery none).child .targetList none, .targetList, 4, true⟩,
      ⟨p.child .whereClause none, .whereClause, 17, false⟩]
    possibleTruncations Renderer.sql S = .ok cs ∧ Inventory S cs ∧
      ∀ c ∈ cs, ∀ content, c.location.resolve? S = some content →
        c.kind.measure content = .ok c.length := by
  intro column inner source S p q cs
  have h : possibleTruncations Renderer.sql S = .ok cs := by cbv
  exact ⟨h, (inventory h).1, (inventory h).2 rfl⟩

end Candidate

end SqlLens
