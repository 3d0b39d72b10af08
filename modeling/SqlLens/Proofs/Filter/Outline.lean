import SqlLens.Proofs.Filter.Order

namespace SqlLens

namespace Node

mutual

-- The node without the clauses of queries that do not filter, without what an update or a delete
-- changes and everything that an insert has, without the order and the filter of calls, and with
-- operators that are all the same.
def outline : Node → Node
  | .select s => .select (outlineSelect s)
  | .update ⟨_, _, _, cond⟩ => .update { relation := .truncated, whereClause := outlineOption cond }
  | .delete ⟨_, cond⟩ => .delete { relation := .truncated, whereClause := outlineOption cond }
  | .insert _ => .insert { relation := .truncated }
  | .derived ⟨lateral, subquery, aliasName⟩ => .derived ⟨lateral, subquery.outline, aliasName⟩
  | .join ⟨kind, natural, l, r, names, quals⟩ =>
    .join ⟨kind, natural, l.outline, r.outline, names, outlineOption quals⟩
  | .with ⟨recursive, ctes⟩ => .with ⟨recursive, outlineList ctes⟩
  | .cte ⟨name, columns, query⟩ => .cte ⟨name, columns, query.outline⟩
  | .target ⟨name, val⟩ => .target ⟨name, outlineOption val⟩
  | .operator ⟨_, _, l, r⟩ =>
    .operator { kind := .op, lexpr := outlineOption l, rexpr := outlineOption r }
  | .row ⟨args⟩ => .row ⟨outlineList args⟩
  | .nullTest ⟨arg, negated⟩ => .nullTest ⟨arg.outline, negated⟩
  | .call ⟨name, args, _, _, withinGroup, all, distinct⟩ =>
    .call ⟨name, outlineList args, [], none, withinGroup, all, distinct⟩
  | .sublink ⟨kind, op, test, query⟩ => .sublink ⟨kind, op, outlineOption test, query.outline⟩
  | .sort ⟨n, dir, nulls⟩ => .sort ⟨n.outline, dir, nulls⟩
  | .table t => .table t
  | .column c => .column c
  | .const c => .const c
  | .star => .star
  | .truncated => .truncated
  | .other o => .other o

def outlineSelect : Select Node → Select Node
  | ⟨op, all, distinct, _, _, sources, cond, _, _, _, _, _, ctes, l, r⟩ => {
    op, all, distinct, fromClause := outlineList sources, whereClause := outlineOption cond,
    withClause := outlineOption ctes, larg := outlineOption l, rarg := outlineOption r }

def outlineOption : Option Node → Option Node
  | none   => none
  | some n => some n.outline

def outlineList : List Node → List Node
  | []      => []
  | n :: ns => n.outline :: outlineList ns

end

@[simp]
theorem outlineOption_eq_map (o : Option Node) : outlineOption o = o.map outline := by
  cases o <;> simp [outlineOption]

@[simp]
theorem outlineList_eq_map (ns : List Node) : outlineList ns = ns.map outline := by
  induction ns
  case nil => simp [outlineList]
  case cons hi => simp [outlineList, hi]

theorem outlineSelect_eq (s : Select Node) : outlineSelect s = {
    op := s.op, all := s.all, distinct := s.distinct
    fromClause := s.fromClause.map outline, whereClause := s.whereClause.map outline
    withClause := s.withClause.map outline
    larg := s.larg.map outline, rarg := s.rarg.map outline } := by
  cases s
  simp [outlineSelect]

end Node

namespace Filter

open Node

variable {A : AliasMap} {p : Pending} {queue : List Node} {k m : Nat}

def Pending.outline (p : Pending) : Pending :=
  ⟨p.statements.map Node.outline, p.conditions.map Node.outline⟩

section Joins

-- Both queues hold as many joins, though the trees are of different sizes.
theorem joinConditions_outline (hk : sizeList queue ≤ k) (hm : sizeList (queue.map outline) ≤ m) :
    joinConditions m (queue.map outline) = (joinConditions k queue).map outline := by
  induction k generalizing queue m
  case zero =>
    cases queue
    case nil => simp [joinConditions]
    case cons n _ =>
      have := n.size_pos
      simp only [sizeList_cons] at hk
      omega
  case succ k hi =>
    cases queue
    case nil => simp [joinConditions]
    case cons n rest =>
      rw [sizeList_cons] at hk
      rw [List.map_cons, sizeList_cons] at hm
      have pos : 0 < n.size ∧ 0 < n.outline.size := ⟨n.size_pos, n.outline.size_pos⟩
      obtain ⟨m, rfl⟩ : ∃ l, m = l + 1 := ⟨m - 1, by omega⟩
      cases n
      case join j =>
        have ih : joinConditions m ((rest ++ [j.larg, j.rarg]).map outline) = _ :=
          hi (by simp [size] at hk ⊢; omega) (by simp [outline, size] at hm ⊢; omega)
        simp only [List.map_append, List.map_cons, List.map_nil] at ih
        simp [joinConditions, outline, ih, Option.toList_map]
      all_goals
        have ih : joinConditions m (rest.map outline) = _ := hi (by omega) (by omega)
        simp [joinConditions, outline, ih]

theorem itemConditions_outline (item : Node) :
    itemConditions item.outline = (itemConditions item).map outline := by
  have enough : sizeList [item] ≤ item.size := by simp
  have enough' : sizeList ([item].map outline) ≤ item.outline.size := by simp
  exact joinConditions_outline enough enough'

end Joins

section Statements

theorem filterMap_outline {f : Node → Option Node} (hf : ∀ n, f n.outline = (f n).map outline)
    (ns : List Node) : (ns.map outline).filterMap f = (ns.filterMap f).map outline := by
  rw [List.filterMap_map, List.map_filterMap]
  exact congrArg (List.filterMap · ns) (funext hf)

theorem flatMap_outline {f : Node → List Node} (hf : ∀ n, f n.outline = (f n).map outline)
    (ns : List Node) : (ns.map outline).flatMap f = (ns.flatMap f).map outline := by
  rw [List.flatMap_map, List.map_flatMap]
  exact congrArg (List.flatMap · ns) (funext hf)

theorem derivedQuery?_outline (item : Node) :
    derivedQuery? item.outline = (derivedQuery? item).map outline := by
  cases item <;> simp [derivedQuery?, outline]

theorem cteQuery?_outline (n : Node) : cteQuery? n.outline = (cteQuery? n).map outline := by
  cases n <;> simp [cteQuery?, outline]

theorem cteQueries_outline (clause : Option Node) :
    cteQueries (clause.map outline) = (cteQueries clause).map outline := by
  cases clause
  case none => rfl
  case some n =>
    cases n <;> simp [cteQueries, outline, filterMap_outline cteQuery?_outline]

theorem ofStatement_outline (n : Node) : ofStatement n.outline = (ofStatement n).outline := by
  cases n
  case select s =>
    have op : (outlineSelect s).isSetOperation = s.isSetOperation := by
      rw [outlineSelect_eq]
      rfl
    rw [outline, ofStatement, ofStatement, op]
    split
    case isTrue => simp [Pending.outline, outlineSelect_eq, Option.toList_map]
    case isFalse =>
      simp [Pending.outline, outlineSelect_eq, filterMap_outline derivedQuery?_outline,
        flatMap_outline itemConditions_outline, cteQueries_outline, Option.toList_map]
  all_goals simp [ofStatement, outline, Pending.outline, Option.toList_map]

theorem ofCondition_outline (n : Node) : ofCondition n.outline = (ofCondition n).outline := by
  cases n <;> simp [ofCondition, outline, Pending.outline, Option.toList_map]

theorem ofNode?_outline (A : AliasMap) (n : Node) : ofNode? A n.outline = ofNode? A n := by
  cases n <;> simp [ofNode?, outline]

end Statements

section Walk

theorem stepStatement_outline : stepStatement p.outline = (stepStatement p).outline := by
  obtain ⟨_ | ⟨s, rest⟩, conditions⟩ := p
  case nil => rfl
  case cons => simp [stepStatement, ofStatement_outline, Pending.outline, Pending.append]

theorem takeCondition_outline : takeCondition p.outline = (takeCondition p).outline := by
  obtain ⟨statements, _ | ⟨c, rest⟩⟩ := p
  case nil => rfl
  case cons => simp [takeCondition, ofCondition_outline, Pending.outline, Pending.append]

theorem round_outline : round p.outline = (round p).outline := by
  rw [round, stepStatement_outline, takeCondition_outline, round]

-- The two walks stay in step: round by round the same queues wait, but for what is left out.
theorem visits_outline (p : Pending) : visits p.outline = (visits p).map outline := by
  have first (q : Pending) : q.outline.conditions.head? = q.conditions.head?.map outline := by
    simp [Pending.outline]
  have empty (q : Pending) : q.outline.isEmpty = q.isEmpty := by
    simp [Pending.outline, Pending.isEmpty]
  induction p using visits.induct
  case case1 p hi =>
    rw [visits.eq_def p.outline, visits.eq_def p, stepStatement_outline, round_outline, first,
      empty, List.map_append, Option.toList_map]
    split
    case isTrue => rfl
    case isFalse more => rw [hi more]

end Walk

-- What an outline leaves out has no part in the result.
theorem filterColumns_outline (S : List Node) (A : AliasMap) :
    filterColumns (S.map outline) A = filterColumns S A := by
  have walks : visits { statements := S.map outline } = (visits { statements := S }).map outline :=
    visits_outline { statements := S }
  rw [filterColumns_eq_eraseDups, filterColumns_eq_eraseDups, walks, List.filterMap_map]
  exact congrArg (fun f => (List.filterMap f _).eraseDups) (funext (ofNode?_outline A))

-- Statements that differ only in what an outline leaves out, however deep and in however many places,
-- have the same filter columns in the same order.
theorem filterColumns_eq_of_outline_eq {S S' : List Node} (h : S.map outline = S'.map outline)
    (A : AliasMap) : filterColumns S A = filterColumns S' A := by
  rw [← filterColumns_outline S, h, filterColumns_outline]

-- A comparison and a conjunction of the same operands, and different tables, assignments and output
-- columns, of which one has a filter of its own.
theorem filterColumns_eq_of_outline_eq_query :
    let column (name : String) : Node := .column ⟨[name]⟩
    let inner (output : List Node) : Node := .select {
      targetList := output, fromClause := [.table { name := "u" }], whereClause := some (column "b")
      havingClause := output.head? }
    let condition (kind : OperatorKind) (output : List Node) : Node := .operator {
      kind
      lexpr := some (.call { name := "f", args := [column "a"], aggOrder := output })
      rexpr := some (.sublink { kind := .exists, subselect := inner output }) }
    let S (kind : OperatorKind) (table : String) (output : List Node) : List Node := [
      .select { targetList := output, whereClause := some (condition kind output) },
      .insert { relation := .table { name := table }, cols := output },
      .update {
        relation := .table { name := table }, targetList := output
        whereClause := some (column "c") }]
    let output : List Node := [.call { name := "sum", aggFilter := some (inner []) }]
    (S .op "t" []).map Node.outline = (S .and "u" output).map Node.outline ∧
      filterColumns (S .op "t" []) {} = filterColumns (S .and "u" output) {} ∧
      filterColumns (S .op "t" []) {} = [⟨none, "a"⟩, ⟨none, "c"⟩, ⟨none, "b"⟩] := by
  intro column inner condition S output
  have outlines : (S .op "t" []).map Node.outline = (S .and "u" output).map Node.outline := rfl
  exact ⟨outlines, filterColumns_eq_of_outline_eq outlines {}, by decide⟩

end Filter

end SqlLens
