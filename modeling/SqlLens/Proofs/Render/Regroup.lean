import SqlLens.Proofs.Node.Regroup
import SqlLens.Proofs.Render.Layout

namespace SqlLens.Render

open Node

variable {kind : OperatorKind} {name : String} {a b c : Node}

section Connectives

-- A chain of a connective is written without parentheses, however it is nested.
theorem node_assoc (hk : kind.isConnective) :
    node (.operator ⟨kind, name, some a, some (.operator ⟨kind, name, some b, some c⟩)⟩) =
      node (.operator ⟨kind, name, some (.operator ⟨kind, name, some a, some b⟩), some c⟩) := by
  have hk : kind = .and ∨ kind = .or := by simpa [OperatorKind.isConnective] using hk
  obtain rfl | rfl := hk
  all_goals
    simp only [node, operator, connected]
    cases node a <;> cases node b <;> cases node c
    all_goals simp [require, needsParensBelow, parensIf, bind, Except.bind, pure, Except.pure,
      String.append_assoc]

-- All that counts of the operands is how they are written in each of the ways.
theorem node_operator_congr {l l' r r' : Option Node} (left : enclosed l' = enclosed l)
    (right : enclosed r' = enclosed r) (left' : connected kind l' = connected kind l)
    (right' : connected kind r' = connected kind r) (whole : option r' = option r)
    (list : listed r' = listed r) (range : bounds r' = bounds r) :
    node (.operator ⟨kind, name, l', r'⟩) = node (.operator ⟨kind, name, l, r⟩) := by
  cases kind <;> simp only [node, operator, left, right, left', right', whole, list, range]

theorem node_chained (hk : kind.isConnective) :
    node (chained kind name a b) = node (.operator ⟨kind, name, some a, some b⟩) := by
  fun_induction chained kind name a b
  case case1 kind' name' l r same hi =>
    obtain ⟨rfl, rfl⟩ := same
    obtain ⟨_, _, e⟩ : ∃ l' r', chained kind' name' a l = .operator ⟨kind', name', l', r'⟩ :=
      exists_chained
    rw [node_assoc hk]
    rw [e] at hi ⊢
    refine node_operator_congr ?left rfl ?left' rfl rfl rfl rfl
    case left => simp only [enclosed, hi]; rfl
    case left' => simp only [connected, hi]; rfl
  all_goals rfl

theorem node_joinOperands (l r : Option Node) :
    node (joinOperands kind name l r) = node (.operator ⟨kind, name, l, r⟩) := by
  unfold joinOperands
  split
  case h_1 =>
    split
    case isTrue hk => exact node_chained hk
    case isFalse => rfl
  case h_2 => rfl

end Connectives

-- Whether a node is enclosed depends on its kind, which stays the same.
theorem encloses_regrouped (m : Manner) (n : Node) : m.encloses n.regrouped = m.encloses n := by
  cases n
  case operator o =>
    obtain ⟨_, _, e⟩ := exists_regrouped_operator o
    rw [e]
    cases m <;> rfl
  case select s =>
    simp only [regrouped, regroupedList_eq, regroupedOption_eq]
    cases m
    case arm => simp [Manner.encloses, needsParensAsArm, Select.isSetOperation]
    all_goals rfl
  all_goals cases m <;> simp only [regrouped] <;> rfl

theorem check_regrouped (fault : RenderFault) (o : Option Node) :
    check fault (regroupedOption o) = check fault o := by
  cases o <;> rfl

-- Regrouping changes no text.
mutual

theorem node_regrouped : (n : Node) → node n.regrouped = node n
  | .select ⟨op, all, distinct, on, targets, sources, cond, groups, having, order, limit, offset,
      ctes, l, r⟩ => by
    simp only [regrouped, node, select, check_regrouped, list_regrouped on, list_regrouped targets,
      list_regrouped sources, option_regrouped cond, list_regrouped groups, option_regrouped having,
      list_regrouped order, option_regrouped limit, option_regrouped offset, option_regrouped ctes,
      arm_regrouped l, arm_regrouped r]
  | .update ⟨relation, targets, sources, cond⟩ => by
    simp only [regrouped, node, node_regrouped relation, assignments_regrouped targets,
      list_regrouped sources, option_regrouped cond]
  | .delete ⟨relation, cond⟩ => by
    simp only [regrouped, node, node_regrouped relation, option_regrouped cond]
  | .insert ⟨relation, cols, source⟩ => by
    simp only [regrouped, node, node_regrouped relation, list_regrouped cols,
      option_regrouped source]
  | .derived ⟨lateral, subquery, aliasName⟩ => by
    simp only [regrouped, node, node_regrouped subquery]
  | .join ⟨kind, natural, l, r, names, quals⟩ => by
    have right := encloses_regrouped .joined r
    simp only [Manner.encloses] at right
    simp only [regrouped, node, node_regrouped l, node_regrouped r, option_regrouped quals, right]
  | .with ⟨recursive, ctes⟩ => by simp only [regrouped, node, list_regrouped ctes]
  | .cte ⟨name, columns, query⟩ => by simp only [regrouped, node, node_regrouped query]
  | .target ⟨name, val⟩ => by simp only [regrouped, node, option_regrouped val]
  | .operator o => operator_regrouped o
  | .row ⟨args⟩ => by simp only [regrouped, node, list_regrouped args]
  | .nullTest ⟨arg, negated⟩ => by
    have operand := encloses_regrouped .operand arg
    simp only [Manner.encloses] at operand
    simp only [regrouped, node, node_regrouped arg, operand]
  | .call ⟨name, args, order, filter, withinGroup, starred, distinct⟩ => by
    simp only [regrouped, node, list_regrouped args, list_regrouped order, option_regrouped filter]
  | .sublink ⟨kind, name, test, query⟩ => by
    have whole := enclosed_regrouped test
    have query := node_regrouped query
    cases kind
    case any =>
      simp only [regrouped, node, query, whole, if_true]
      cases name <;> rfl
    all_goals simp only [regrouped, node, query, whole, reduceCtorEq, if_false]
  | .sort ⟨n, dir, nulls⟩ => by simp only [regrouped, node, node_regrouped n]
  | .table _ | .column _ | .const _ | .star | .truncated | .other _ => by simp only [regrouped]

theorem operator_regrouped : (o : Operator Node) →
    node (Node.operator o).regrouped = node (.operator o)
  | ⟨kind, name, l, r⟩ => by
    simp only [regrouped]
    exact (node_joinOperands _ _).trans (node_operator_congr (enclosed_regrouped l)
      (enclosed_regrouped r) (connected_regrouped kind l) (connected_regrouped kind r)
      (option_regrouped r) (listed_regrouped r) (bounds_regrouped r))

theorem bounds_regrouped : (o : Option Node) → bounds (regroupedOption o) = bounds o
  | none => by rw [regroupedOption]
  | some n => by
    have here := node_regrouped n
    cases n
    case row r =>
      obtain ⟨_ | ⟨low, _ | ⟨high, _ | ⟨more, rest⟩⟩⟩⟩ := r
      case nil => simp only [regroupedOption, regrouped, regroupedList]
      case cons.cons.nil =>
        have low' := encloses_regrouped .operand low
        have high' := encloses_regrouped .operand high
        simp only [Manner.encloses] at low' high'
        simp only [regroupedOption, regrouped, regroupedList, bounds, node_regrouped low,
          node_regrouped high, low', high']
      all_goals
        simp only [regrouped, regroupedList] at here
        simp only [regroupedOption, regrouped, regroupedList, bounds, here]
    case operator o =>
      obtain ⟨l, r, e⟩ := exists_regrouped_operator o
      rw [e] at here
      simp only [regroupedOption, e, bounds, here]
    all_goals
      simp only [regrouped] at here
      simp only [regroupedOption, regrouped, bounds, here]

theorem listed_regrouped : (o : Option Node) → listed (regroupedOption o) = listed o
  | none => by rw [regroupedOption]
  | some n => by
    have same := encloses_regrouped .listed n
    simp only [Manner.encloses] at same
    simp only [regroupedOption, listed, node_regrouped n, same]

theorem option_regrouped : (o : Option Node) → option (regroupedOption o) = option o
  | none => by rw [regroupedOption]
  | some n => by simp only [regroupedOption, option, node_regrouped n]

theorem arm_regrouped : (o : Option Node) → arm (regroupedOption o) = arm o
  | none => by rw [regroupedOption]
  | some n => by
    have same := encloses_regrouped .arm n
    simp only [Manner.encloses] at same
    simp only [regroupedOption, arm, node_regrouped n, same]

theorem enclosed_regrouped : (o : Option Node) → enclosed (regroupedOption o) = enclosed o
  | none => by rw [regroupedOption]
  | some n => by
    have same := encloses_regrouped .operand n
    simp only [Manner.encloses] at same
    simp only [regroupedOption, enclosed, node_regrouped n, same]

theorem connected_regrouped (parent : OperatorKind) :
    (o : Option Node) → connected parent (regroupedOption o) = connected parent o
  | none => by rw [regroupedOption]
  | some n => by
    have same := encloses_regrouped (.below parent) n
    simp only [Manner.encloses] at same
    simp only [regroupedOption, connected, node_regrouped n, same]

theorem list_regrouped : (ns : List Node) → list (regroupedList ns) = list ns
  | [] => by rw [regroupedList]
  | n :: ns => by simp only [regroupedList, list, node_regrouped n, list_regrouped ns]

theorem assignments_regrouped : (ns : List Node) → assignments (regroupedList ns) = assignments ns
  | [] => by rw [regroupedList]
  | n :: ns => by
    have rest := assignments_regrouped ns
    have here := node_regrouped n
    cases n
    case target t =>
      obtain ⟨_ | name, _ | val⟩ := t
      case some.some =>
        simp only [regroupedList, regrouped, regroupedOption, assignments, node_regrouped val, rest]
      all_goals simp only [regroupedList, regrouped, regroupedOption, assignments]
    case operator o =>
      obtain ⟨l, r, e⟩ := exists_regrouped_operator o
      rw [e] at here
      simp only [regroupedList, e, assignments, here, rest]
    all_goals
      simp only [regrouped] at here
      simp only [regroupedList, regrouped, assignments, here, rest]

end

end SqlLens.Render
