import SqlLens.Node.Basic

namespace SqlLens

def OperatorKind.isConnective (kind : OperatorKind) : Bool := kind == .and || kind == .or

namespace Node

-- Two operands of a connective. If the right one is itself a chain, the left one becomes its first
-- link.
def chained (kind : OperatorKind) (name : String) (l : Node) : Node → Node
  | .operator ⟨kind', name', some a, some b⟩ =>
    if kind' = kind ∧ name' = name then
      .operator ⟨kind, name, some (chained kind name l a), some b⟩
    else .operator ⟨kind, name, some l, some (.operator ⟨kind', name', some a, some b⟩)⟩
  | r => .operator ⟨kind, name, some l, some r⟩

def joinOperands (kind : OperatorKind) (name : String) : Option Node → Option Node → Node
  | some l, some r =>
    if kind.isConnective then chained kind name l r else .operator ⟨kind, name, some l, some r⟩
  | l, r => .operator ⟨kind, name, l, r⟩

mutual

-- The tree with every chain of a connective nested to the left. `IN` has the name of the equality
-- that it stands for.
def regrouped : Node → Node
  | .select ⟨op, all, distinct, on, targets, sources, cond, groups, having, order, limit, offset,
      ctes, l, r⟩ =>
    .select ⟨op, all, distinct, regroupedList on, regroupedList targets, regroupedList sources,
      regroupedOption cond, regroupedList groups, regroupedOption having, regroupedList order,
      regroupedOption limit, regroupedOption offset, regroupedOption ctes, regroupedOption l,
      regroupedOption r⟩
  | .update ⟨relation, targets, sources, cond⟩ =>
    .update ⟨regrouped relation, regroupedList targets, regroupedList sources,
      regroupedOption cond⟩
  | .delete ⟨relation, cond⟩ => .delete ⟨regrouped relation, regroupedOption cond⟩
  | .insert ⟨relation, cols, source⟩ =>
    .insert ⟨regrouped relation, regroupedList cols, regroupedOption source⟩
  | .derived ⟨lateral, subquery, aliasName⟩ => .derived ⟨lateral, regrouped subquery, aliasName⟩
  | .join ⟨kind, natural, l, r, names, quals⟩ =>
    .join ⟨kind, natural, regrouped l, regrouped r, names, regroupedOption quals⟩
  | .with ⟨recursive, ctes⟩ => .with ⟨recursive, regroupedList ctes⟩
  | .cte ⟨name, columns, query⟩ => .cte ⟨name, columns, regrouped query⟩
  | .target ⟨name, val⟩ => .target ⟨name, regroupedOption val⟩
  | .operator ⟨kind, name, l, r⟩ => joinOperands kind name (regroupedOption l) (regroupedOption r)
  | .row ⟨args⟩ => .row ⟨regroupedList args⟩
  | .nullTest ⟨arg, negated⟩ => .nullTest ⟨regrouped arg, negated⟩
  | .call ⟨name, args, order, filter, withinGroup, starred, distinct⟩ =>
    .call ⟨name, regroupedList args, regroupedList order, regroupedOption filter, withinGroup,
      starred, distinct⟩
  | .sublink ⟨kind, name, test, query⟩ =>
    .sublink ⟨kind, if kind = .any then some (name.getD "=") else name, regroupedOption test,
      regrouped query⟩
  | .sort ⟨n, dir, nulls⟩ => .sort ⟨regrouped n, dir, nulls⟩
  | .table t => .table t
  | .column c => .column c
  | .const c => .const c
  | .star => .star
  | .truncated => .truncated
  | .other o => .other o

def regroupedOption : Option Node → Option Node
  | none => none
  | some n => some (regrouped n)

def regroupedList : List Node → List Node
  | [] => []
  | n :: ns => regrouped n :: regroupedList ns

end

variable {kind : OperatorKind} {name : String} {a b c n n' : Node} {l r : Option Node}

theorem regroupedOption_eq (o : Option Node) : regroupedOption o = o.map regrouped := by
  cases o <;> simp only [regroupedOption, Option.map_none, Option.map_some]

theorem regroupedList_eq (ns : List Node) : regroupedList ns = ns.map regrouped := by
  induction ns
  case nil => simp only [regroupedList, List.map_nil]
  case cons hi => simp only [regroupedList, hi, List.map_cons]

theorem chained_assoc : chained kind name (chained kind name a b) c =
    chained kind name a (chained kind name b c) := by
  fun_induction chained kind name b c
  all_goals simp_all [chained]

theorem exists_chained : ∃ l r, chained kind name a b = .operator ⟨kind, name, l, r⟩ := by
  unfold chained
  split
  · split
    all_goals exact ⟨_, _, rfl⟩
  · exact ⟨_, _, rfl⟩

theorem regrouped_connective (hk : kind.isConnective) :
    (operator ⟨kind, name, some a, some b⟩).regrouped =
      chained kind name a.regrouped b.regrouped := by
  simp [regrouped, regroupedOption, joinOperands, hk]

-- The two groupings of a chain of three are one.
theorem regrouped_assoc (hk : kind.isConnective) :
    (operator ⟨kind, name, some (.operator ⟨kind, name, some a, some b⟩), some c⟩).regrouped =
      (operator ⟨kind, name, some a, some (.operator ⟨kind, name, some b, some c⟩)⟩).regrouped := by
  simp only [regrouped_connective hk, chained_assoc]

theorem regrouped_operator (hk : kind.isConnective = false) :
    (operator ⟨kind, name, l, r⟩).regrouped =
      .operator ⟨kind, name, l.map regrouped, r.map regrouped⟩ := by
  cases l <;> cases r <;> simp [regrouped, regroupedOption, joinOperands, hk]

theorem exists_regrouped_operator (o : Operator Node) :
    ∃ l r, (operator o).regrouped = .operator ⟨o.kind, o.name, l, r⟩ := by
  obtain ⟨kind, name, l, r⟩ := o
  cases hk : kind.isConnective
  case false => exact ⟨_, _, regrouped_operator hk⟩
  case true =>
    cases l <;> cases r
    case some.some => exact regrouped_connective hk ▸ exists_chained
    all_goals exact ⟨_, _, by simp only [regrouped, regroupedOption, joinOperands]; rfl⟩

-- Whether the node applies an operator or a test to its operands. Connectives and negations are
-- not among them.
def isApplication : Node → Bool
  | .operator o => !o.kind.isConnective && o.kind != .not
  | .nullTest _ => true
  | .sublink l => l.kind == .any || l.kind == .all
  | _ => false

-- The same operator with the same operands, up to the grouping of connectives inside them.
inductive SameApplication : Node → Node → Prop
  | operator {kind name l r l' r'} : l.map regrouped = l'.map regrouped →
    r.map regrouped = r'.map regrouped →
    SameApplication (.operator ⟨kind, name, l, r⟩) (.operator ⟨kind, name, l', r'⟩)
  | nullTest {negated arg arg'} : arg.regrouped = arg'.regrouped →
    SameApplication (.nullTest ⟨arg, negated⟩) (.nullTest ⟨arg', negated⟩)
  | sublink {kind name name' test test' query query'} : name.getD "=" = name'.getD "=" →
    test.map regrouped = test'.map regrouped → query.regrouped = query'.regrouped →
    SameApplication (.sublink ⟨kind, name, test, query⟩) (.sublink ⟨kind, name', test', query'⟩)

def operatorKind? : Node → Option OperatorKind
  | .operator o => some o.kind
  | _ => none

theorem SameApplication.operatorKind? (h : SameApplication n n') :
    n.operatorKind? = n'.operatorKind? := by
  cases h <;> rfl

theorem sameApplication_of_regrouped (h : n.regrouped = n'.regrouped) (hn : n.isApplication) :
    SameApplication n n' := by
  cases n
  case operator o =>
    obtain ⟨kind, name, l, r⟩ := o
    simp only [isApplication, Bool.and_eq_true, Bool.not_eq_true'] at hn
    rw [regrouped_operator hn.1] at h
    cases n'
    case operator o' =>
      obtain ⟨kind', name', l', r'⟩ := o'
      obtain ⟨_, _, e⟩ := exists_regrouped_operator ⟨kind', name', l', r'⟩
      obtain ⟨rfl, rfl⟩ : kind = kind' ∧ name = name' := by
        rw [e] at h
        cases h
        exact ⟨rfl, rfl⟩
      simp only [regrouped_operator hn.1, operator.injEq, Operator.mk.injEq, true_and] at h
      exact .operator h.1 h.2
    all_goals simp [regrouped] at h
  case nullTest t =>
    cases n'
    case nullTest t' =>
      obtain ⟨arg, negated⟩ := t
      obtain ⟨arg', negated'⟩ := t'
      simp only [regrouped, nullTest.injEq, NullTest.mk.injEq] at h
      obtain ⟨h, rfl⟩ := h
      exact .nullTest h
    case operator o' =>
      obtain ⟨_, _, e⟩ := exists_regrouped_operator o'
      rw [e, regrouped] at h
      cases h
    all_goals simp [regrouped] at h
  case sublink s =>
    cases n'
    case sublink s' =>
      obtain ⟨kind, name, test, query⟩ := s
      obtain ⟨kind', name', test', query'⟩ := s'
      simp only [regrouped, sublink.injEq, Sublink.mk.injEq, regroupedOption_eq] at h
      obtain ⟨rfl, named, tested, queried⟩ := h
      refine .sublink ?_ tested queried
      split at named
      · exact Option.some.inj named
      · rw [named]
    case operator o' =>
      obtain ⟨_, _, e⟩ := exists_regrouped_operator o'
      rw [e, regrouped] at h
      cases h
    all_goals simp [regrouped] at h
  all_goals cases hn

end Node

end SqlLens
