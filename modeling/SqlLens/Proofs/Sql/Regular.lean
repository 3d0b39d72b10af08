import SqlLens.Proofs.Render.Complete
import SqlLens.Node.Sql

namespace SqlLens

namespace Node

-- Whether the node has no child in a place that is not written. Calls are left out: next to a star
-- the other arguments are not written.
def tidy : Node → Bool
  | .select s =>
    if s.op == .none then
      s.larg.isNone && s.rarg.isNone && (s.distinct || s.distinctClause.isEmpty)
    else
      s.distinctClause.isEmpty && s.targetList.isEmpty && s.fromClause.isEmpty &&
      s.whereClause.isNone && s.groupClause.isEmpty && s.havingClause.isNone
  | .operator o => o.kind != .not || o.lexpr.isNone
  | .sublink l =>
    match l.kind with
    | .any | .all => true
    | .exists | .expr | .array => l.testexpr.isNone
  | _ => true

structure Regular (n : Node) : Prop extends Sound n where
  tidy : n.tidy

abbrev Proper : Node → Prop := Throughout Regular

theorem Proper.complete {n : Node} (h : n.Proper) : n.Complete := h.imp fun _ h => h.toSound

theorem proper_other (kind text : String) : (other ⟨kind, some text⟩).Proper :=
  .intro ⟨⟨rfl, nofun⟩, rfl⟩ (by simp [offspring_eq])

end Node

namespace Sql

open Node

theorem proper_columnNode (first : Ident) (rest : Name) : (columnNode (first :: rest)).Proper :=
  .intro ⟨⟨rfl, nofun⟩, rfl⟩ (by simp [offspring_eq, columnNode])

theorem proper_operatorNode (op : String) (hl : l.Proper) (hr : r.Proper) :
    (operatorNode op l r).Proper := by
  unfold operatorNode
  split <;> exact .intro ⟨⟨rfl, nofun⟩, rfl⟩ (by simp [offspring_eq, hl, hr])

theorem proper_notNode (h : n.Proper) : (notNode n).Proper :=
  .intro ⟨⟨rfl, nofun⟩, rfl⟩ (by simp [offspring_eq, notNode, h])

theorem proper_negateNode (negated : Bool) (h : n.Proper) : (negateNode negated n).Proper := by
  unfold negateNode
  split
  · exact proper_notNode h
  · exact h

theorem proper_sublink (op : Option String) (ht : test.Proper) (hq : query.Proper) :
    (sublink ⟨.any, op, some test, query⟩).Proper ∧ (sublink ⟨.all, op, some test, query⟩).Proper :=
  ⟨.intro ⟨⟨rfl, nofun⟩, rfl⟩ (by simp [offspring_eq, ht, hq]),
    .intro ⟨⟨rfl, nofun⟩, rfl⟩ (by simp [offspring_eq, ht, hq])⟩

theorem proper_row (h : ∀ n ∈ ns, n.Proper) : (row ⟨ns⟩).Proper :=
  .intro ⟨⟨rfl, nofun⟩, rfl⟩ (by simpa [offspring_eq] using h)

theorem proper_target (name : Option String) (h : n.Proper) : (target ⟨name, some n⟩).Proper :=
  .intro ⟨⟨by simp [wellFormed], nofun⟩, rfl⟩ (by simp [offspring_eq, h])

theorem proper_with (recursive : Bool) (h : ∀ n ∈ ns, n.Proper) :
    (Node.with ⟨recursive, ns⟩).Proper :=
  .intro ⟨⟨rfl, nofun⟩, rfl⟩ (by simpa [offspring_eq] using h)

theorem Literal.proper_toNode (l : Literal) : l.toNode.Proper := by
  cases l <;> exact .intro ⟨⟨rfl, nofun⟩, rfl⟩ (by simp [offspring_eq, Literal.toNode, opaqueNode])

-- The clauses around a body are put next to the body's own.
theorem Attached.proper_queryNode {a : Attached} {n : Node} (hn : n.Proper)
    (hw : ∀ c ∈ a.withClause, c.Proper) (ho : ∀ c ∈ a.sortClause, c.Proper)
    (hl : ∀ c ∈ a.limitCount, c.Proper) (hf : ∀ c ∈ a.limitOffset, c.Proper) (text : String) :
    (a.queryNode n text).Proper := by
  unfold queryNode
  split
  case h_1 s =>
    split
    case h_1 s' hs =>
      unfold onto? at hs
      split at hs <;> cases hs
      have here : Regular (.select s) := hn.here
      have below (c) (hc : c ∈ (Node.select s).offspring) := hn.child hc
      refine .intro ⟨⟨here.wellFormed, nofun⟩, here.tidy⟩ fun c hc => ?_
      simp only [offspring_eq, List.mem_append, Option.mem_toList, Option.or_eq_some_iff]
        at hc below
      grind
    case h_2 => exact proper_other _ _
  case h_2 => exact proper_other _ _

mutual

theorem Expr.proper_toNode : (e : Expr) → e.toNode.Proper
  | .ident id => by
    rw [Expr.toNode]
    exact proper_columnNode id []
  | .compound first rest => by
    rw [Expr.toNode]
    exact proper_columnNode first rest
  | .binary l op r => by
    rw [Expr.toNode]
    exact proper_operatorNode op l.proper_toNode r.proper_toNode
  | .unary op e => by
    rw [Expr.toNode]
    split
    · exact proper_notNode e.proper_toNode
    · exact .intro ⟨⟨rfl, nofun⟩, rfl⟩ (by simp [offspring_eq, e.proper_toNode])
  | .nested e => by
    rw [Expr.toNode]
    exact e.proper_toNode
  | .isNull e negated => by
    rw [Expr.toNode]
    exact .intro ⟨⟨rfl, nofun⟩, rfl⟩ (by simp [offspring_eq, e.proper_toNode])
  | .inList e items negated => by
    have row := proper_row (proper_exprNodes items)
    rw [Expr.toNode]
    cases negated <;>
      exact .intro ⟨⟨rfl, nofun⟩, rfl⟩ (by simp [offspring_eq, e.proper_toNode, row])
  | .inQuery e q negated => by
    rw [Expr.toNode]
    exact proper_negateNode negated (proper_sublink none e.proper_toNode q.proper_toNode).1
  | .between e negated low high => by
    have row : (Node.row ⟨[low.toNode, high.toNode]⟩).Proper :=
      proper_row (by simp [low.proper_toNode, high.proper_toNode])
    rw [Expr.toNode]
    cases negated <;>
      exact .intro ⟨⟨rfl, nofun⟩, rfl⟩ (by simp [offspring_eq, e.proper_toNode, row])
  | .like caseless negated any e pattern escape => by
    rw [Expr.toNode]
    split
    · exact proper_other _ _
    · exact .intro ⟨⟨rfl, nofun⟩, rfl⟩
        (by simp [offspring_eq, e.proper_toNode, pattern.proper_toNode])
  | .exists q negated => by
    rw [Expr.toNode]
    exact proper_negateNode negated
      (.intro ⟨⟨rfl, nofun⟩, rfl⟩ (by simp [offspring_eq, q.proper_toNode]))
  | .subquery q => by
    rw [Expr.toNode]
    exact .intro ⟨⟨rfl, nofun⟩, rfl⟩ (by simp [offspring_eq, q.proper_toNode])
  | .compareAny l op r isSome => by
    have hl := l.proper_toNode
    have hr := r.proper_toNode
    unfold Expr.toNode
    split <;> rename_i h <;> cases h
    · rw [Expr.toNode] at hr
      exact (proper_sublink op hl (hr.child (by simp [offspring_eq]))).1
    · exact .intro ⟨⟨rfl, nofun⟩, rfl⟩ (by simp [offspring_eq, hl, hr])
  | .compareAll l op r => by
    have hl := l.proper_toNode
    have hr := r.proper_toNode
    unfold Expr.toNode
    split <;> rename_i h <;> cases h
    · rw [Expr.toNode] at hr
      exact (proper_sublink op hl (hr.child (by simp [offspring_eq]))).2
    · exact .intro ⟨⟨rfl, nofun⟩, rfl⟩ (by simp [offspring_eq, hl, hr])
  | .tuple items => by
    rw [Expr.toNode]
    exact proper_row (proper_exprNodes items)
  | .literal l => by
    rw [Expr.toNode]
    exact l.proper_toNode
  | .call f => by
    rw [Expr.toNode]
    exact f.proper_toNode
  | .access root links => by
    rw [Expr.toNode]
    exact proper_other _ _
  | .phrase pieces => by
    rw [Expr.toNode]
    exact proper_other _ _

theorem proper_exprNodes : (es : List Expr) → ∀ n ∈ exprNodes es, n.Proper
  | [] => by simp [exprNodes]
  | e :: es => by simpa [exprNodes] using ⟨e.proper_toNode, proper_exprNodes es⟩

theorem proper_exprNode? : (e : Option Expr) → ∀ n ∈ exprNode? e, n.Proper
  | none => by simp [exprNode?]
  | some e => by simp [exprNode?, e.proper_toNode]

theorem Function.proper_toNode : (f : Function) → f.toNode.Proper
  | ⟨name, odbc, params, .list ⟨distinct, args, before, order, after⟩, within, filter, tail⟩ => by
    rw [Function.toNode]
    split
    · refine .intro ⟨⟨rfl, nofun⟩, rfl⟩ ?_
      have := proper_argumentNodes args
      have := proper_orderNodes order
      have := proper_orderNodes within
      have := proper_exprNode? filter
      simp only [offspring_eq, List.mem_append, Option.mem_toList]
      grind
    · exact proper_other _ _
  | ⟨name, odbc, params, .none, within, filter, tail⟩ => by
    rw [Function.toNode]
    · exact proper_other _ _
    · simp
  | ⟨name, odbc, params, .query q, within, filter, tail⟩ => by
    rw [Function.toNode]
    · exact proper_other _ _
    · simp

theorem proper_argumentNodes : (is : List Item) → ∀ n ∈ argumentNodes is, n.Proper
  | [] => by simp [argumentNodes]
  | .star _ :: is => by
    rw [argumentNodes]
    exact proper_argumentNodes is
  | .expr e :: is => by
    simpa [argumentNodes] using ⟨e.proper_toNode, proper_argumentNodes is⟩
  | .aliased e as_ :: is => by
    simpa [argumentNodes] using ⟨proper_other _ _, proper_argumentNodes is⟩
  | .phrase pieces :: is => by
    simpa [argumentNodes] using ⟨proper_other _ _, proper_argumentNodes is⟩

theorem OrderItem.proper_toNode : (i : OrderItem) → i.toNode.Proper
  | ⟨e, asc, nullsFirst, fill⟩ => by
    unfold OrderItem.toNode
    split
    · exact .intro ⟨⟨rfl, nofun⟩, rfl⟩ (by simp [offspring_eq, e.proper_toNode])
    · exact proper_other _ _

theorem proper_orderNodes : (is : List OrderItem) → ∀ n ∈ orderNodes is, n.Proper
  | [] => by simp [orderNodes]
  | i :: is => by simpa [orderNodes] using ⟨i.proper_toNode, proper_orderNodes is⟩

theorem OrderBy.proper_toNodes : (o : OrderBy) → ∀ n ∈ o.toNodes, n.Proper
  | .items is => by
    rw [OrderBy.toNodes]
    exact proper_orderNodes is
  | .all pieces => by simp [OrderBy.toNodes, opaqueNode, proper_other]

theorem Limits.proper_count? : (l : Limits) → ∀ n ∈ l.count?, n.Proper
  | .plain limit _ _ _ => by
    rw [Limits.count?]
    exact proper_exprNode? limit
  | .comma _ limit => by simp [Limits.count?, limit.proper_toNode]

theorem Limits.proper_offset? : (l : Limits) → ∀ n ∈ l.offset?, n.Proper
  | .plain _ offset _ _ => by
    rw [Limits.offset?]
    exact proper_exprNode? offset
  | .comma offset _ => by simp [Limits.offset?, offset.proper_toNode]

theorem Query.proper_toNode : (q : Query) → q.toNode.Proper
  | ⟨recursive, ctes, body, order, interpolate, limits, rest⟩ => by
    rw [Query.toNode]
    split
    · refine Attached.proper_queryNode body.proper_toNode ?_ order.proper_toNodes
        limits.proper_count? limits.proper_offset? _
      split
      · simp
      · simpa using proper_with recursive (proper_cteNodes ctes)
    · exact proper_other _ _

theorem Cte.proper_toNode : (c : Cte) → c.toNode.Proper
  | ⟨name, columns, materialized, query, from_⟩ => by
    rw [Cte.toNode]
    split
    · exact .intro ⟨⟨rfl, nofun⟩, rfl⟩ (by simp [offspring_eq, query.proper_toNode])
    · exact proper_other _ _

theorem proper_cteNodes : (cs : List Cte) → ∀ n ∈ cteNodes cs, n.Proper
  | [] => by simp [cteNodes]
  | c :: cs => by simpa [cteNodes] using ⟨c.proper_toNode, proper_cteNodes cs⟩

theorem Body.proper_toNode : (b : Body) → b.toNode.Proper
  | .select s => by
    rw [Body.toNode]
    exact s.proper_toNode
  | .query q => by
    rw [Body.toNode]
    exact q.proper_toNode
  | .setOperation op quantifier l r => by
    rw [Body.toNode]
    split
    · exact proper_other _ _
    · cases op <;> exact .intro ⟨⟨rfl, nofun⟩, rfl⟩
        (by simp [offspring_eq, l.proper_toNode, r.proper_toNode])
  | .phrase pieces => by
    rw [Body.toNode]
    exact proper_other _ _

theorem Distinct.proper_toNodes : (d : Distinct) → ∀ n ∈ d.toNodes, n.Proper
  | .none => by simp [Distinct.toNodes]
  | .plain => by simp [Distinct.toNodes]
  | .on es => by
    rw [Distinct.toNodes]
    exact proper_exprNodes es

theorem Select.proper_toNode : (s : Select) → s.toNode.Proper
  | ⟨fromFirst, lead, distinct, top, items, afterItems, from_, afterFrom, cond, groupAll,
      groups, modifiers, afterGroup, having, tail⟩ => by
    rw [Select.toNode]
    split
    · refine .intro ⟨⟨rfl, nofun⟩, ?_⟩ ?_
      · cases distinct <;> simp [tidy, Distinct.isPresent, Distinct.toNodes]
      · have := distinct.proper_toNodes
        have := proper_itemNodes items
        have := proper_sourceNodes from_
        have := proper_exprNode? cond
        have := proper_exprNodes groups
        have := proper_exprNode? having
        simp only [offspring_eq, List.mem_append, Option.mem_toList]
        grind
    · exact proper_other _ _

theorem Item.proper_toNode : (i : Item) → i.toNode.Proper
  | .expr e => by
    rw [Item.toNode]
    exact proper_target none e.proper_toNode
  | .aliased e as_ => by
    rw [Item.toNode]
    exact proper_target _ e.proper_toNode
  | .star _ => by
    rw [Item.toNode]
    exact proper_target none (.intro ⟨⟨rfl, nofun⟩, rfl⟩ (by simp [offspring_eq]))
  | .phrase pieces => by
    rw [Item.toNode]
    exact proper_target none (proper_other _ _)

theorem proper_itemNodes : (is : List Item) → ∀ n ∈ itemNodes is, n.Proper
  | [] => by simp [itemNodes]
  | i :: is => by simpa [itemNodes] using ⟨i.proper_toNode, proper_itemNodes is⟩

theorem Source.proper_toNode : (s : Source) → s.toNode.Proper
  | .table name middle as_ after => by
    rw [Source.toNode]
    split
    · split
      · exact .intro ⟨⟨rfl, nofun⟩, rfl⟩ (by simp [offspring_eq])
      · exact proper_other _ _
    · exact proper_other _ _
  | .derived lateral q as_ => by
    rw [Source.toNode]
    split
    · exact .intro ⟨⟨rfl, nofun⟩, rfl⟩ (by simp [offspring_eq, q.proper_toNode])
    · exact proper_other _ _
  | .nested s none => by
    rw [Source.toNode]
    exact s.proper_toNode
  | .nested s (some as_) => by
    rw [Source.toNode]
    exact proper_other _ _
  | .join l global op r constraint => by
    rw [Source.toNode]
    split
    · refine .intro ⟨⟨rfl, nofun⟩, rfl⟩ ?_
      have := constraint.proper_quals?
      have := l.proper_toNode
      have := r.proper_toNode
      simp only [offspring_eq, List.mem_append, Option.mem_toList]
      grind
    · exact proper_other _ _
  | .asof l global r matching constraint => by
    rw [Source.toNode]
    exact proper_other _ _
  | .phrase pieces => by
    rw [Source.toNode]
    exact proper_other _ _

theorem JoinConstraint.proper_quals? : (c : JoinConstraint) → ∀ n ∈ c.quals?, n.Proper
  | .on e => by simp [JoinConstraint.quals?, e.proper_toNode]
  | .none => by simp [JoinConstraint.quals?]
  | .natural => by simp [JoinConstraint.quals?]
  | .columns _ => by simp [JoinConstraint.quals?]

theorem proper_sourceNodes : (ss : List Source) → ∀ n ∈ sourceNodes ss, n.Proper
  | [] => by simp [sourceNodes]
  | s :: ss => by simpa [sourceNodes] using ⟨s.proper_toNode, proper_sourceNodes ss⟩

end

theorem proper_table (t : Table) : (Node.table t).Proper :=
  .intro ⟨⟨rfl, nofun⟩, rfl⟩ (by simp [offspring_eq])

theorem Insert.proper_toNode (i : Insert) : i.toNode.Proper := by
  unfold Insert.toNode
  split
  case h_1 t _ ht =>
    refine .intro ⟨⟨rfl, nofun⟩, rfl⟩ ?_
    have column (id : Ident) : (Node.target { name := some id.folded }).Proper :=
      .intro ⟨⟨rfl, nofun⟩, rfl⟩ (by simp [offspring_eq])
    simp [offspring_eq, proper_table, column, Query.proper_toNode, or_imp, forall_and]
  case h_2 => exact proper_other _ _

theorem Assignment.proper_toNode? {a : Assignment} (h : a.toNode? = some n) :
    n.Proper ∧ n.assignable := by
  unfold toNode? at h
  split at h <;> cases h
  exact ⟨proper_target _ a.value.proper_toNode, rfl⟩

theorem proper_assignments {as : List Assignment} (h : as.mapM Assignment.toNode? = some targets) :
    ∀ n ∈ targets, n.Proper ∧ n.assignable := by
  induction as generalizing targets
  case nil =>
    cases h
    simp
  case cons a as hi =>
    simp only [List.mapM_cons, Option.bind_eq_bind, Option.bind_eq_some_iff, Option.pure_def,
      Option.some.injEq] at h
    obtain ⟨n, hn, rest, hr, rfl⟩ := h
    exact List.forall_mem_cons.mpr ⟨Assignment.proper_toNode? hn, hi hr⟩

theorem Update.proper_toNode (u : Update) : u.toNode.Proper := by
  unfold Update.toNode
  dsimp only
  split
  case h_1 targets _ ht =>
    have assignments := proper_assignments ht
    refine .intro ⟨⟨rfl, ?_⟩, rfl⟩ ?_
    · rintro _ ⟨⟩ n hn
      exact (assignments n hn).2
    · have := proper_sourceNodes u.fromAfter
      have := proper_exprNode? u.cond
      have := u.table.proper_toNode
      simp only [offspring_eq, List.mem_append, List.mem_singleton, Option.mem_toList]
      grind
  case h_2 => exact proper_other _ _

theorem Delete.proper_toNode (d : Delete) : d.toNode.Proper := by
  unfold Delete.toNode
  dsimp only
  split
  case h_1 table _ =>
    split
    · refine .intro ⟨⟨rfl, nofun⟩, rfl⟩ ?_
      have := proper_exprNode? d.cond
      have := table.proper_toNode
      simp only [offspring_eq, List.mem_append, List.mem_singleton, Option.mem_toList]
      grind
    · exact proper_other _ _
  case h_2 => exact proper_other _ _

theorem Statement.proper_toNode : (s : Statement) → s.toNode.Proper
  | .query q => q.proper_toNode
  | .insert i => i.proper_toNode
  | .update u => u.proper_toNode
  | .delete d => d.proper_toNode
  | .phrase _ => proper_other _ _

end Sql

theorem Node.proper_of_ofSql (h : Node.ofSql d text = .ok S) : ∀ n ∈ S, n.Proper := by
  unfold ofSql at h
  split at h <;> cases h
  simp [Sql.Statement.proper_toNode]

end SqlLens
