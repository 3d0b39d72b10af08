import SqlLens.Node.Walk
import SqlLens.Proofs.Node.Path
import SqlLens.Proofs.Render.Text

namespace SqlLens

-- Whether the node is written in a way of its own in this manner, not plainly and then enclosed or
-- not: the two bounds of a range, and assignments.
def Manner.special : Manner → Node → Bool
  | .range, .row r => r.args.length == 2
  | .assignment, .target _ => true
  | _, _ => false

theorem Manner.layout?_of_not_special {m : Manner} {n : Node} (h : m.special n = false) :
    m.layout? n = n.layout?.map (Layout.parensIf (m.encloses n)) := by
  unfold layout?
  split
  case h_4 => rfl
  all_goals cases h

namespace Node

-- Whether the node has what it cannot be written without.
def wellFormed : Node → Bool
  | .select s => s.op == .none || s.larg.isSome && s.rarg.isSome
  | .target t => t.name.isSome || t.val.isSome
  | .operator o =>
    match o.kind with
    | .op => o.lexpr.isSome || o.rexpr.isSome
    | .not => o.rexpr.isSome
    | _ => o.lexpr.isSome && o.rexpr.isSome
  | .sublink l =>
    match l.kind with
    | .any | .all => l.testexpr.isSome
    | .exists | .expr | .array => true
  | .column c => !c.fields.isEmpty
  | .other o => o.sql.isSome
  | _ => true

-- Whether the node can be written as an assignment.
def assignable : Node → Bool
  | .target t => t.name.isSome && t.val.isSome
  | n => n.wellFormed

-- The node lacks nothing, and if it is an update, neither do its assignments.
structure Sound (n : Node) : Prop where
  wellFormed  : n.wellFormed
  assignments : ∀ u, n = .update u → ∀ t ∈ u.targetList, t.assignable

-- `P` holds of the node and of all nodes below it.
inductive Throughout (P : Node → Prop) : Node → Prop
  | intro (here : P n) (below : ∀ c ∈ n.offspring, Throughout P c) : Throughout P n

abbrev Complete : Node → Prop := Throughout Sound

variable {n n' c : Node} {m : Manner} {l : Layout} {P Q : Node → Prop}

theorem Throughout.here (h : Throughout P n) : P n := by
  cases h
  assumption

theorem Throughout.child (h : Throughout P n) (hc : c ∈ n.offspring) : Throughout P c := by
  cases h
  case intro _ below => exact below c hc

theorem Throughout.imp (hp : ∀ n, P n → Q n) (h : Throughout P n) : Throughout Q n := by
  induction h
  case intro here _ hi => exact .intro (hp _ here) hi

@[simp]
theorem nodes_always (slot : Slot) (n : Node) : (always slot n).flatMap (·.2.nodes) = [n] := by
  simp [always, Child.nodes]

@[simp]
theorem nodes_present (slot : Slot) (o : Option Node) :
    (present slot o).flatMap (·.2.nodes) = o.toList := by
  cases o <;> simp [present, Child.nodes]

@[simp]
theorem nodes_nonempty (slot : Slot) (ns : List Node) :
    (nonempty slot ns).flatMap (·.2.nodes) = ns := by
  cases ns <;> simp [nonempty, Child.nodes]

-- The nodes one level below, kind by kind.
theorem offspring_eq (n : Node) : n.offspring =
    match n with
    | .select s =>
      s.withClause.toList ++ s.distinctClause ++ s.targetList ++ s.fromClause ++
      s.whereClause.toList ++ s.groupClause ++ s.havingClause.toList ++ s.larg.toList ++
      s.rarg.toList ++ s.sortClause ++ s.limitCount.toList ++ s.limitOffset.toList
    | .update u => [u.relation] ++ u.targetList ++ u.fromClause ++ u.whereClause.toList
    | .delete d => [d.relation] ++ d.whereClause.toList
    | .insert i => [i.relation] ++ i.cols ++ i.selectStmt.toList
    | .derived d => [d.subquery]
    | .join j => [j.larg] ++ [j.rarg] ++ j.quals.toList
    | .with w => w.ctes
    | .cte c => [c.ctequery]
    | .target t => t.val.toList
    | .operator o => o.lexpr.toList ++ o.rexpr.toList
    | .row r => r.args
    | .nullTest t => [t.arg]
    | .call c => c.args ++ c.aggOrder ++ c.aggFilter.toList
    | .sublink l => l.testexpr.toList ++ [l.subselect]
    | .sort s => [s.node]
    | .table _ | .column _ | .const _ | .star | .truncated | .other _ => [] := by
  cases n <;> simp only [offspring, children, List.flatMap_append, List.flatMap_nil, nodes_always,
    nodes_present, nodes_nonempty]

theorem isSome_layout? (n : Node) : n.layout?.isSome = n.wellFormed := by
  cases n
  case select s =>
    cases h : s.op != .none <;> cases hl : s.larg <;> cases hr : s.rarg <;>
      simp_all [layout?, Layout.select?, Layout.body?, wellFormed]
  case target t => obtain ⟨_ | name, _ | val⟩ := t <;> rfl
  case operator o =>
    obtain ⟨kind, name, l, r⟩ := o
    cases kind <;> cases l <;> cases r <;> rfl
  case sublink q =>
    obtain ⟨kind, op, test, query⟩ := q
    cases kind <;> cases test <;> rfl
  case column c =>
    obtain ⟨fields⟩ := c
    cases fields <;> rfl
  case other o => obtain ⟨kind, _ | sql⟩ := o <;> rfl
  all_goals rfl

theorem isSome_layout?_assignment (n : Node) :
    (Manner.assignment.layout? n).isSome = n.assignable := by
  cases n
  case target t => obtain ⟨_ | name, _ | val⟩ := t <;> rfl
  all_goals simp [Manner.layout?, assignable, isSome_layout?]

theorem isSome_layout?_manner (h : n.wellFormed) (hm : m ≠ .assignment) :
    (m.layout? n).isSome := by
  unfold Manner.layout?
  split
  case h_1 => rfl
  case h_4 => simpa [isSome_layout?] using h
  all_goals contradiction

-- What a node has places for are its children; only updates have places for assignments.
theorem each_layout? (h : n.layout? = some l) : l.Each fun m c => c ∈ n.offspring ∧
    (m = .assignment → ∃ u, n = .update u ∧ c ∈ u.targetList) := by
  cases n
  case select s =>
    obtain ⟨body, hb, rfl⟩ := Option.map_eq_some_iff.mp h
    unfold Layout.body? at hb
    split at hb
    case isTrue =>
      split at hb <;> cases hb
      simp +contextual [offspring_eq, *]
    case isFalse =>
      cases hb
      simp +contextual [offspring_eq]
  case target t =>
    obtain ⟨_ | name, _ | val⟩ := t <;> cases h <;> simp [offspring_eq]
  case operator o =>
    obtain ⟨kind, name, l, r⟩ := o
    cases kind <;> cases l <;> cases r <;> cases h <;> simp [offspring_eq]
  case sublink q =>
    obtain ⟨kind, op, test, query⟩ := q
    cases kind <;> cases test <;> cases h <;> simp [offspring_eq]
  case column c =>
    rw [layout?] at h
    split at h <;> cases h
    simp
  case other o =>
    obtain ⟨kind, _ | sql⟩ := o <;> cases h
    simp
  all_goals
    cases h
    simp +contextual [offspring_eq, Layout.update, Layout.delete, Layout.derived, Layout.cte]

theorem each_manner (h : m.layout? n = some l) : l.Each fun m c => c ∈ n.offspring ∧
    (m = .assignment → ∃ u, n = .update u ∧ c ∈ u.targetList) := by
  unfold Manner.layout? at h
  split at h
  case h_4 =>
    obtain ⟨l, hl, rfl⟩ := Option.map_eq_some_iff.mp h
    exact (Layout.each_parensIf _).mpr (each_layout? hl)
  all_goals
    cases h
    try simp [offspring_eq]

-- By induction over the tree: where a child is written, the child has a layout.
theorem Complete.hasText (h : n.Complete) (hm : (m.layout? n).isSome) : m.HasText n := by
  induction h generalizing m
  case intro n sound below hi =>
    have ⟨l, hl⟩ := Option.isSome_iff_exists.mp hm
    refine Manner.hasText_iff.mpr ⟨l, hl, fun segment hs => ?_⟩
    match segment with
    | .text _ => trivial
    | .part m' c =>
      have ⟨hc, assigned⟩ := each_manner hl _ hs
      apply hi c hc
      by_cases ha : m' = .assignment
      case pos =>
        have ⟨u, hu, ht⟩ := assigned ha
        rw [ha, isSome_layout?_assignment]
        exact sound.assignments u hu c ht
      case neg => exact isSome_layout?_manner (below c hc).here.wellFormed ha

theorem Complete.plain (h : n.Complete) : Manner.plain.HasText n :=
  h.hasText (isSome_layout?_manner h.here.wellFormed nofun)

theorem sql_of_hasText {S : List Node} (h : ∀ n ∈ S, Manner.plain.HasText n) :
    Renderer.sql S = .ok ("; ".intercalate (S.map Manner.plain.text)) := by
  have hl := Render.list_eq_ok_iff.mpr ⟨h, rfl⟩
  simp [Renderer.sql, render, hl]

theorem sql_of_complete {S : List Node} (h : ∀ n ∈ S, n.Complete) :
    Renderer.sql S = .ok ("; ".intercalate (S.map Manner.plain.text)) :=
  sql_of_hasText fun n hn => (h n hn).plain

theorem exists_sql {S : List Node} (h : ∀ n ∈ S, n.Complete) : ∃ s, Renderer.sql S = .ok s :=
  ⟨_, sql_of_complete h⟩

end Node

-- The nodes that a replacement puts into a slot.
def Replacement.nodes : Replacement → List Node
  | .scalar n    => [n]
  | .sequence ns => ns

namespace Held

def nodes : Held → List Node
  | .one n      => [n]
  | .optional n => n.toList
  | .many ns    => ns

variable {h h' : Held} {x : Node}

theorem mem_nodes_iff : x ∈ h.nodes ↔ ∃ c, h.child? = some c ∧ x ∈ c.nodes := by
  match h with
  | .one _ | .optional none | .optional (some _) | .many [] | .many (_ :: _) =>
    simp [nodes, child?, Child.nodes]

theorem mem_of_fill? (e : h.fill? i r = some h') (hx : x ∈ h'.nodes) :
    x ∈ h.nodes ∨ x ∈ r.nodes := by
  unfold fill? at e
  split at e
  case h_4 ns k m =>
    split at e <;> cases e
    exact (List.mem_or_eq_of_mem_set hx).imp_right List.mem_singleton.mpr
  case h_5 => cases e
  all_goals
    cases e
    exact .inr hx

end Held

namespace Node

-- Properties of a sound node that take the same property of the children in some of its slots.
-- Filling a slot does not change which slots these are.
structure Inherited (P : Node → Prop) (slots : Node → Slot → Bool) : Prop where
  iff n : P n ↔ n.Sound ∧
    ∀ slot held, slots n slot → n.held? slot = some held → ∀ c ∈ held.nodes, P c
  put : n.focus? slot = some f → f.Put f' n' → slots n' = slots n

variable {n n' c : Node} {s : Step} {r : Replacement} {path : String} {slot : Slot} {f f' : Focus}

theorem mem_offspring_iff : c ∈ n.offspring ↔ ∃ slot h, n.held? slot = some h ∧ c ∈ h.nodes := by
  simp only [offspring, List.mem_flatMap, Prod.exists, mem_children_iff, Option.bind_eq_some_iff,
    Held.mem_nodes_iff]
  grind

theorem mem_held_of_fill (e : n.fill path s r = .ok n') (hs : n'.held? slot = some h)
    (hc : c ∈ h.nodes) :
    (∃ h', n.held? slot = some h' ∧ c ∈ h'.nodes) ∨ slot = s.slot ∧ c ∈ r.nodes := by
  obtain ⟨f, f', hf, p, hh⟩ := fill_ok_iff.mp e
  by_cases same : slot = s.slot
  case pos =>
    subst same
    rw [held?, focus?_put hf p] at hs
    cases hs
    refine (Held.mem_of_fill? hh hc).imp (fun hc => ⟨f.held, ?_, hc⟩) fun hc => ⟨rfl, hc⟩
    rw [held?, hf, Option.map_some]
  case neg => exact .inl ⟨h, held?_put hf p same ▸ hs, hc⟩

-- Filling a slot takes nothing away.
theorem wellFormed_put (hf : n.focus? slot = some f) (p : f.Put f' n') (h : n.wellFormed) :
    n'.wellFormed := by
  unfold focus? at hf
  split at hf
  all_goals
    cases hf <;> cases p <;> first | rfl | exact h | (simp only [wellFormed] at h ⊢; grind)

theorem assignable_put (hf : n.focus? slot = some f) (p : f.Put f' n') (h : n.assignable) :
    n'.assignable := by
  cases n
  case target t =>
    cases slot <;> cases hf
    cases p
    simp_all [assignable]
  all_goals
    have := wellFormed_put hf p h
    cases slot <;> cases hf <;> cases p <;> exact this

theorem sound_of_fill (e : n.fill path s r = .ok n') (h : n.Sound)
    (ha : ∀ u, n = .update u → s.slot = .targetList → ∀ m ∈ r.nodes, m.assignable) : n'.Sound := by
  have ⟨f, f', hf, p, hh⟩ := fill_ok_iff.mp e
  refine ⟨wellFormed_put hf p h.wellFormed, ?_⟩
  rintro u rfl t ht
  have old : ∃ u', n = .update u' := by
    unfold focus? at hf
    split at hf
    all_goals cases hf <;> cases p <;> exact ⟨_, rfl⟩
  obtain ⟨u', rfl⟩ := old
  have targets := h.assignments u' rfl
  cases hs : s.slot <;> simp only [hs, focus?, reduceCtorEq] at hf <;> cases hf <;> cases p
  case targetList =>
    exact (Held.mem_of_fill? hh ht).elim (targets t) (ha u' rfl hs t)
  all_goals exact targets t ht

theorem exists_held_of_step? (h : n.step? s = some c) :
    ∃ held, n.held? s.slot = some held ∧ c ∈ held.nodes := by
  rw [step?_eq_some_iff, content?_eq_held] at h
  have ⟨held, hh, h⟩ := Option.bind_eq_some_iff.mp h
  refine ⟨held, hh, ?_⟩
  cases hi : s.index <;> rw [hi] at h
  case none => exact Held.mem_nodes_iff.mpr ⟨_, h, by simp [Child.nodes]⟩
  case some i =>
    cases held <;> simp only [Held.content?, Option.map_eq_some_iff, reduceCtorEq] at h
    obtain ⟨_, hc, h⟩ := h
    cases h
    exact List.mem_of_getElem? hc

theorem mem_offspring_of_step? (h : n.step? s = some c) : c ∈ n.offspring :=
  mem_offspring_iff.mpr ⟨s.slot, exists_held_of_step? h⟩

-- An assignment stays one, whatever changes below it.
theorem assignable_of_replace (e : n.replace path steps r = .ok n') (h : n.assignable) :
    n'.assignable := by
  cases steps
  case nil => cases e
  case cons s rest =>
    obtain ⟨r', _, e⟩ := exists_fill e
    obtain ⟨f, f', hf, p, _⟩ := fill_ok_iff.mp e
    exact assignable_put hf p h

namespace Inherited

variable {P : Node → Prop} {slots : Node → Slot → Bool} (i : Inherited P slots)
include i

theorem of_fill (e : n.fill path s r = .ok n') (h : P n)
    (hr : slots n s.slot → ∀ m ∈ r.nodes, P m)
    (ha : ∀ u, n = .update u → s.slot = .targetList → ∀ m ∈ r.nodes, m.assignable) : P n' := by
  obtain ⟨sound, below⟩ := (i.iff n).mp h
  obtain ⟨f, f', hf, p, _⟩ := fill_ok_iff.mp e
  refine (i.iff n').mpr ⟨sound_of_fill e sound ha, fun slot held counted hh c hc => ?_⟩
  rw [i.put hf p] at counted
  obtain ⟨held', hh', hc'⟩ | ⟨rfl, hc⟩ := mem_held_of_fill e hh hc
  · exact below slot held' counted hh' c hc'
  · exact hr counted c hc

-- By induction on the path.
theorem of_replace (e : n.replace path steps r = .ok n') (h : P n)
    (hr : ∀ m ∈ r.nodes, P m ∧ m.assignable) : P n' := by
  induction steps generalizing n n'
  case nil => cases e
  case cons s rest hi =>
    cases rest
    case nil => exact i.of_fill e h (fun _ m hm => (hr m hm).1) fun _ _ _ m hm => (hr m hm).2
    case cons t rest =>
      obtain ⟨m, m', hs, hm, e⟩ := replace_cons_ok_iff.mp e
      obtain ⟨held, hh, hc⟩ := exists_held_of_step? hs
      obtain ⟨sound, below⟩ := (i.iff n).mp h
      refine i.of_fill e h (fun counted => ?_) fun u hu slot => ?_
      · simpa [Replacement.nodes] using hi hm (below s.slot held counted hh m hc)
      · subst hu
        rw [slot] at hh
        cases hh
        simpa [Replacement.nodes] using assignable_of_replace hm (sound.assignments u rfl m hc)

end Inherited

theorem Throughout.of_resolve? {P : Node → Prop} (h : Throughout P n)
    (hr : n.resolve? steps = some (.one c)) : Throughout P c := by
  induction steps generalizing n
  case nil =>
    cases hr
    exact h
  case cons s rest hi =>
    cases rest
    case nil => exact h.child (mem_offspring_of_step? (step?_eq_some_iff.mpr hr))
    case cons t rest =>
      have ⟨m, hm, hr⟩ := Option.bind_eq_some_iff.mp hr
      exact hi (h.child (mem_offspring_of_step? hm)) hr

end Node

namespace Path

variable {S S' : List Node} {p : Path} {n : Node} {r : Replacement}

theorem throughout_of_resolve? {P : Node → Prop} (h : ∀ n ∈ S, n.Throughout P)
    (hp : p.resolve? S = some (.one n)) : n.Throughout P := by
  have ⟨m, hm, hr⟩ := Option.bind_eq_some_iff.mp hp
  exact (h m (List.mem_of_getElem? hm)).of_resolve? hr

theorem inherited_of_replace {P : Node → Prop} {slots : Node → Slot → Bool}
    (i : Node.Inherited P slots) (e : p.replace S r = .ok S') (h : ∀ n ∈ S, P n)
    (hr : ∀ m ∈ r.nodes, P m ∧ m.assignable) : ∀ n ∈ S', P n := by
  obtain ⟨n, n', hn, hn', hS⟩ := replace_ok_iff.mp e
  subst hS
  intro m hm
  obtain hm | rfl := List.mem_or_eq_of_mem_set hm
  · exact h m hm
  · exact i.of_replace hn' (h n (List.mem_of_getElem? hn)) hr

end Path

end SqlLens
