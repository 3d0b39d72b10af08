import Mathlib.Data.List.Induction
import SqlLens.Proofs.Filter

namespace SqlLens

-- The column with the table in the place of its alias.
def FilterColumn.renamed (aliases : AliasMap) (c : FilterColumn) : FilterColumn :=
  { c with table := c.table.map fun t => (aliases.resolve? t).getD t }

namespace Filter

variable {A : AliasMap} {p : Pending} {columns : List FilterColumn} {k : Nat}

section Visits

-- What waits when the first condition in the queue has been looked at.
def takeCondition (p : Pending) : Pending :=
  match p.conditions with
  | [] => p
  | c :: rest => { p with conditions := rest }.append (ofCondition c)

def round (p : Pending) : Pending := takeCondition (stepStatement p)

def Pending.isEmpty (p : Pending) : Bool := p.statements.isEmpty && p.conditions.isEmpty

theorem stepCondition_eq : stepCondition A p columns = (takeCondition p,
    p.conditions.head?.toList.foldl (fun cs n => add cs (ofNode? A n)) columns) := by
  rw [stepCondition, takeCondition]
  split <;> simp [*]

theorem weight_round_lt (more : ¬(round p).isEmpty) : (round p).weight < p.weight := by
  have taken : stepCondition {} (stepStatement p) [] = (round p, _) := stepCondition_eq
  exact weight_round taken more

-- The conditions in the order in which the walk looks at them.
def visits (p : Pending) : List Node :=
  (stepStatement p).conditions.head?.toList ++
    if (round p).isEmpty then [] else visits (round p)
termination_by p.weight
decreasing_by exact weight_round_lt ‹_›

theorem run_eq_foldl (hk : p.weight < k) :
    run A k p columns = (visits p).foldl (fun cs n => add cs (ofNode? A n)) columns := by
  induction k generalizing p columns
  case zero => omega
  case succ k hi =>
    rw [run, stepCondition_eq, visits, List.foldl_append]
    change (if (round p).isEmpty then _ else run A k (round p) _) = _
    split
    case isTrue => rfl
    case isFalse more =>
      have := weight_round_lt more
      exact hi (by omega)

end Visits

section Firsts

variable {α β : Type} [BEq α] [LawfulBEq α] [BEq β] [LawfulBEq β]

theorem eraseDups_concat_of_mem {a : α} {l : List α} (h : a ∈ l) :
    (l ++ [a]).eraseDups = l.eraseDups := by
  simp [List.eraseDups_append, List.removeAll, h]

theorem eraseDups_concat_of_not_mem {a : α} {l : List α} (h : a ∉ l) :
    (l ++ [a]).eraseDups = l.eraseDups ++ [a] := by
  simp [List.eraseDups_append, List.removeAll, h, List.eraseDups_cons]

-- What is dropped before the map would be dropped after it.
theorem eraseDups_map_eraseDups (f : α → β) (l : List α) :
    (l.eraseDups.map f).eraseDups = (l.map f).eraseDups := by
  induction l using List.reverseRecOn
  case nil => rfl
  case append_singleton l a hi =>
    have mem : f a ∈ l.eraseDups.map f ↔ f a ∈ l.map f := by simp
    rw [List.map_append, List.map_singleton]
    by_cases ha : a ∈ l
    case pos =>
      rw [eraseDups_concat_of_mem ha, hi, eraseDups_concat_of_mem (List.mem_map_of_mem ha)]
    case neg =>
      rw [eraseDups_concat_of_not_mem ha, List.map_append, List.map_singleton]
      by_cases hf : f a ∈ l.map f
      case pos => rw [eraseDups_concat_of_mem hf, eraseDups_concat_of_mem (mem.mpr hf), hi]
      case neg =>
        rw [eraseDups_concat_of_not_mem hf, eraseDups_concat_of_not_mem (mem.not.mpr hf), hi]

end Firsts

theorem add_eraseDups (c : FilterColumn) :
    add columns.eraseDups (some c) = (columns ++ [c]).eraseDups := by
  by_cases h : c ∈ columns
  case pos => simp [add, h, eraseDups_concat_of_mem]
  case neg => simp [add, h, eraseDups_concat_of_not_mem]

theorem foldl_add_eraseDups (f : Node → Option FilterColumn) (columns : List FilterColumn)
    (ns : List Node) :
    ns.foldl (fun cs n => add cs (f n)) columns.eraseDups =
      (columns ++ ns.filterMap f).eraseDups := by
  induction ns generalizing columns
  case nil => simp
  case cons n ns hi =>
    rw [List.foldl_cons, List.filterMap_cons]
    cases f n
    case none => exact hi _
    case some c => rw [add_eraseDups, hi, List.append_assoc, List.singleton_append]

theorem filterColumns_eq_eraseDups (S : List Node) (A : AliasMap) :
    filterColumns S A = ((visits { statements := S }).filterMap (ofNode? A)).eraseDups := by
  have enough : Pending.weight { statements := S } < Node.sizeList S + 1 := by
    simp [Pending.weight]
  have folded := foldl_add_eraseDups (ofNode? A) [] (visits { statements := S })
  rw [filterColumns, run_eq_foldl enough]
  simpa using folded

-- Without aliases a qualifier is the table itself.
theorem resolve?_eq_renamed (A : AliasMap) (c : Column) :
    c.resolve? A = (c.resolve? {}).map (·.renamed A) := by
  have absent (table : String) : AliasMap.resolve? {} table = none := rfl
  simp [Column.resolve?, FilterColumn.renamed, absent, Function.comp_def]

theorem ofNode?_eq_renamed (A : AliasMap) (n : Node) :
    ofNode? A n = (ofNode? {} n).map (·.renamed A) := by
  cases n
  case column c => exact resolve?_eq_renamed A c
  all_goals rfl

-- The columns with aliases are those without, renamed. Columns that become equal keep the place of
-- the first of them.
theorem filterColumns_eq_renamed (S : List Node) (A : AliasMap) :
    filterColumns S A = ((filterColumns S {}).map (·.renamed A)).eraseDups := by
  rw [filterColumns_eq_eraseDups S A, filterColumns_eq_eraseDups S {}, eraseDups_map_eraseDups,
    List.map_filterMap]
  exact congrArg (fun f => (List.filterMap f _).eraseDups) (funext (ofNode?_eq_renamed A))

end Filter

end SqlLens
