import SqlLens.Proofs.Render.Complete

namespace SqlLens.Node

-- Whether the children in a slot are written.
def reaches : Node → Slot → Bool
  | .select s, .larg | .select s, .rarg => s.op != .none
  | .select s, .targetList | .select s, .fromClause | .select s, .whereClause
  | .select s, .groupClause | .select s, .havingClause => s.op == .none
  | .select s, .distinctClause => s.op == .none && s.distinct
  | .operator o, .lexpr => o.kind != .not
  | .call c, .args => !c.star
  | .sublink l, .testexpr => l.kind == .any || l.kind == .all
  | _, _ => true

-- The children that are written.
def reached (n : Node) : List Node :=
  (n.children.filter (n.reaches ·.1)).flatMap (·.2.nodes)

abbrev HasText (n : Node) : Prop := Manner.plain.HasText n

variable {n n' c : Node} {m : Manner} {p : Slot → Bool}

theorem mem_reached_iff : c ∈ n.reached ↔
    ∃ slot child, (slot, child) ∈ n.children ∧ n.reaches slot ∧ c ∈ child.nodes := by
  simp [reached, and_assoc]

@[simp]
theorem nodes_filter_always (slot : Slot) (n : Node) :
    ((always slot n).filter (p ·.1)).flatMap (·.2.nodes) = if p slot then [n] else [] := by
  cases h : p slot <;> simp [always, Child.nodes, h]

@[simp]
theorem nodes_filter_present (slot : Slot) (o : Option Node) :
    ((present slot o).filter (p ·.1)).flatMap (·.2.nodes) = if p slot then o.toList else [] := by
  cases o <;> cases h : p slot <;> simp [present, Child.nodes, h]

@[simp]
theorem nodes_filter_nonempty (slot : Slot) (ns : List Node) :
    ((nonempty slot ns).filter (p ·.1)).flatMap (·.2.nodes) = if p slot then ns else [] := by
  cases ns <;> cases h : p slot <;> simp [nonempty, Child.nodes, h]

-- The children that are written, kind by kind.
theorem reached_eq (n : Node) : n.reached =
    match n with
    | .select s =>
      s.withClause.toList ++
      (if s.op == .none && s.distinct then s.distinctClause else []) ++
      (if s.op == .none then s.targetList else []) ++
      (if s.op == .none then s.fromClause else []) ++
      (if s.op == .none then s.whereClause.toList else []) ++
      (if s.op == .none then s.groupClause else []) ++
      (if s.op == .none then s.havingClause.toList else []) ++
      (if s.op != .none then s.larg.toList else []) ++
      (if s.op != .none then s.rarg.toList else []) ++
      s.sortClause ++ s.limitCount.toList ++ s.limitOffset.toList
    | .operator o => (if o.kind != .not then o.lexpr.toList else []) ++ o.rexpr.toList
    | .call c => (if !c.star then c.args else []) ++ c.aggOrder ++ c.aggFilter.toList
    | .sublink l =>
      (if l.kind == .any || l.kind == .all then l.testexpr.toList else []) ++ [l.subselect]
    | n => n.offspring := by
  cases n <;> simp only [reached, offspring_eq, children, List.filter_append, List.flatMap_append,
    List.filter_nil, List.flatMap_nil, nodes_filter_always, nodes_filter_present,
    nodes_filter_nonempty] <;> rfl

theorem hasText_iff_layout : n.HasText ↔ ∃ l, n.layout? = some l ∧ l.Each Manner.HasText := by
  have plain : Manner.plain.layout? n = n.layout? := by
    rw [Manner.layout?_of_not_special rfl]
    cases n.layout? <;> rfl
  rw [HasText, Manner.hasText_iff, plain]

theorem HasText.wellFormed (h : n.HasText) : n.wellFormed := by
  obtain ⟨l, hl, _⟩ := hasText_iff_layout.mp h
  rw [← isSome_layout?, hl, Option.isSome_some]

theorem hasText_of_not_special (h : m.special n = false) : m.HasText n ↔ n.HasText := by
  rw [Manner.hasText_iff, Manner.layout?_of_not_special h, hasText_iff_layout]
  simp

-- The bounds of a range are written as operands, and the elements of other rows plainly.
theorem hasText_range_iff : Manner.range.HasText n ↔ n.HasText := by
  cases n
  case row r =>
    obtain ⟨_ | ⟨low, _ | ⟨high, _ | ⟨_, _⟩⟩⟩⟩ := r
    case cons.cons.nil =>
      rw [Manner.hasText_iff, hasText_iff_layout]
      simp [Manner.layout?, layout?, Render.hasText_iff_plain]
    all_goals exact hasText_of_not_special rfl
  all_goals exact hasText_of_not_special rfl

theorem hasText_manner_iff (hm : m ≠ .assignment) : m.HasText n ↔ n.HasText := by
  by_cases hr : m = .range
  case pos => exact hr ▸ hasText_range_iff
  case neg => exact Render.hasText_iff_plain hr hm

-- An assignment is the only manner that asks for more.
theorem hasText_assignment_iff : Manner.assignment.HasText n ↔ n.assignable ∧ n.HasText := by
  cases n
  case target t =>
    rw [Manner.hasText_iff, hasText_iff_layout]
    obtain ⟨_ | name, _ | val⟩ := t <;>
      simp [Manner.layout?, layout?, Layout.target?, assignable]
  all_goals
    rw [hasText_of_not_special rfl, iff_and_self]
    exact HasText.wellFormed

theorem sound_iff : n.Sound ↔
    n.wellFormed ∧ ∀ u, n = .update u → ∀ t ∈ u.targetList, t.assignable :=
  ⟨fun h => ⟨h.wellFormed, h.assignments⟩, fun h => ⟨h.1, h.2⟩⟩

-- A node has a text if it lacks nothing and whatever is written of it has a text.
theorem hasText_iff_reached : n.HasText ↔ n.Sound ∧ ∀ c ∈ n.reached, c.HasText := by
  rw [hasText_iff_layout, sound_iff, reached_eq]
  cases n
  case select q =>
    by_cases ho : q.op = .none
    case pos =>
      cases hd : q.distinct <;>
        simp [layout?, Layout.select?, Layout.body?_of_op_none ho, ho, hd, wellFormed, or_imp,
          forall_and]
    case neg =>
      cases hl : q.larg <;> cases hr : q.rarg <;>
        simp [layout?, Layout.select?, Layout.body?, ho, hl, hr, wellFormed, hasText_manner_iff,
          or_imp, forall_and]
  case operator o =>
    obtain ⟨kind, name, l, r⟩ := o
    cases kind <;> cases l <;> cases r <;>
      simp [layout?, Layout.operator?, hasText_manner_iff, wellFormed]
  case sublink q =>
    obtain ⟨kind, op, test, query⟩ := q
    cases kind <;> cases test <;>
      simp [layout?, Layout.sublink?, hasText_manner_iff, wellFormed]
  case call q =>
    cases h : q.star <;> simp [layout?, wellFormed, h, or_imp, forall_and]
  case target t =>
    obtain ⟨_ | name, _ | val⟩ := t <;>
      simp [layout?, Layout.target?, offspring_eq, wellFormed]
  case column c => simp [layout?, offspring_eq, wellFormed]
  case other o => simp [layout?, offspring_eq, wellFormed, Option.isSome_iff_exists]
  case update u =>
    simp [layout?, offspring_eq, Layout.update, hasText_assignment_iff, wellFormed, or_imp,
      forall_and, and_assoc, and_left_comm]
  all_goals
    simp [layout?, offspring_eq, Layout.delete, Layout.derived, Layout.cte, hasText_manner_iff,
      wellFormed, or_imp, forall_and]

theorem exists_sql_iff {S : List Node} : (∃ s, Renderer.sql S = .ok s) ↔ ∀ n ∈ S, n.HasText := by
  constructor
  case mp =>
    intro ⟨s, h⟩
    cases e : Render.list S
    case error => simp [Renderer.sql, render, e] at h
    case ok => exact (Render.list_eq_ok_iff.mp e).1
  case mpr => exact fun h => ⟨_, sql_of_hasText h⟩

theorem reaches_put (hf : n.focus? slot = some f) (p : f.Put f' n') : n'.reaches = n.reaches := by
  funext t
  unfold focus? at hf
  split at hf
  all_goals
    cases hf <;> cases p <;> cases t <;> rfl

theorem hasText_inherited : Inherited HasText reaches where
  iff n := by
    simp only [hasText_iff_reached (n := n), mem_reached_iff, mem_children_iff, Held.mem_nodes_iff,
      Option.bind_eq_some_iff]
    grind
  put := reaches_put

end SqlLens.Node
