import Mathlib.Data.Fintype.Option
import SqlLens.Proofs.Node.Regroup

namespace SqlLens.Node

section Logic

-- Truth values, `none` if a value is unknown.
variable {a b c : Option Bool}

def conjunction : Option Bool → Option Bool → Option Bool
  | some true, b => b
  | some false, _ => some false
  | none, some false => some false
  | none, _ => none

def disjunction : Option Bool → Option Bool → Option Bool
  | some true, _ => some true
  | some false, b => b
  | none, some true => some true
  | none, _ => none

theorem conjunction_assoc : conjunction (conjunction a b) c = conjunction a (conjunction b c) := by
  decide +revert

theorem disjunction_assoc : disjunction (disjunction a b) c = disjunction a (disjunction b c) := by
  decide +revert

end Logic

-- What the tree is worth if its conditions are worth what `value` says.
def truth (value : Node → Option Bool) : Node → Option Bool
  | .operator ⟨.and, _, some a, some b⟩ => conjunction (truth value a) (truth value b)
  | .operator ⟨.or, _, some a, some b⟩ => disjunction (truth value a) (truth value b)
  | .operator ⟨.not, _, _, some a⟩ => (truth value a).map not
  | n => value n

-- The same tree up to the grouping of chains of one connective. The name of a connective is no part
-- of it.
inductive Associated : Node → Node → Prop
  | refl (n) : Associated n n
  | symm {n n'} : Associated n n' → Associated n' n
  | trans {n n' n''} : Associated n n' → Associated n' n'' → Associated n n''
  | assoc {kind a b c} : kind.isConnective →
    Associated (.operator ⟨kind, "", some (.operator ⟨kind, "", some a, some b⟩), some c⟩)
      (.operator ⟨kind, "", some a, some (.operator ⟨kind, "", some b, some c⟩)⟩)
  | connective {kind name name' a a' b b'} : kind.isConnective → Associated a a' →
    Associated b b' →
    Associated (.operator ⟨kind, name, some a, some b⟩) (.operator ⟨kind, name', some a', some b'⟩)
  | negation {name name' l l' a a'} : Associated a a' →
    Associated (.operator ⟨.not, name, l, some a⟩) (.operator ⟨.not, name', l', some a'⟩)

theorem Associated.truth_eq {n n' : Node} (h : Associated n n') (value : Node → Option Bool) :
    n.truth value = n'.truth value := by
  induction h
  case refl => rfl
  case symm hi => exact hi.symm
  case trans hi hi' => exact hi.trans hi'
  case assoc kind _ _ _ hk =>
    cases kind
    case and => simp only [truth, conjunction_assoc]
    case or => simp only [truth, disjunction_assoc]
    all_goals cases hk
  case connective kind _ _ _ _ _ _ hk _ _ ha hb =>
    cases kind
    case and | or => simp only [truth, ha, hb]
    all_goals cases hk
  case negation hi => simp only [truth, hi]

end SqlLens.Node
