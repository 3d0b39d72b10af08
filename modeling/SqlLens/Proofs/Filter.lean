import Mathlib.Logic.Relation
import SqlLens.Filter
import SqlLens.Proofs.Node.Size

namespace SqlLens.Filter

-- The joins of a FROM item: the item itself and the joins in its arms.
inductive JoinIn : Node → Join Node → Prop
  | here : JoinIn (.join j) j
  | left : JoinIn j.larg k → JoinIn (.join j) k
  | right : JoinIn j.rarg k → JoinIn (.join j) k

mutual

-- Where a statement is looked at as one whose conditions filter.
inductive StatementPosition (S : List Node) : Node → Prop
  | top : n ∈ S → StatementPosition S n
  | derived : StatementPosition S (.select s) → s.op = .none → .derived d ∈ s.fromClause →
      StatementPosition S d.subquery
  | cte : StatementPosition S (.select s) → s.op = .none → s.withClause = some (.with w) →
      .cte c ∈ w.ctes → StatementPosition S c.ctequery
  | larg : StatementPosition S (.select s) → s.op ≠ .none → s.larg = some n →
      StatementPosition S n
  | rarg : StatementPosition S (.select s) → s.op ≠ .none → s.rarg = some n →
      StatementPosition S n
  | subselect : FilterPosition S (.sublink l) → StatementPosition S l.subselect

-- Where an expression decides which rows are taken.
inductive FilterPosition (S : List Node) : Node → Prop
  | selectWhere : StatementPosition S (.select s) → s.op = .none → s.whereClause = some n →
      FilterPosition S n
  | quals : StatementPosition S (.select s) → s.op = .none → item ∈ s.fromClause →
      JoinIn item j → j.quals = some n → FilterPosition S n
  | updateWhere : StatementPosition S (.update u) → u.whereClause = some n → FilterPosition S n
  | deleteWhere : StatementPosition S (.delete d) → d.whereClause = some n → FilterPosition S n
  | lexpr : FilterPosition S (.operator o) → o.lexpr = some n → FilterPosition S n
  | rexpr : FilterPosition S (.operator o) → o.rexpr = some n → FilterPosition S n
  | rowArg : FilterPosition S (.row r) → n ∈ r.args → FilterPosition S n
  | nullTest : FilterPosition S (.nullTest t) → FilterPosition S t.arg
  | callArg : FilterPosition S (.call c) → n ∈ c.args → FilterPosition S n
  | testexpr : FilterPosition S (.sublink l) → l.testexpr = some n → FilterPosition S n

end

-- The column that a reference stands for: its last field, with the field before that one as its
-- table or, if it is an alias, the table that it is an alias of.
inductive Denotes (A : AliasMap) : Column → FilterColumn → Prop
  | plain : Denotes A ⟨[column]⟩ ⟨none, column⟩
  | aliased : A.resolve? qualifier = some table →
      Denotes A ⟨fields ++ [qualifier, column]⟩ ⟨some table, column⟩
  | raw : A.resolve? qualifier = none →
      Denotes A ⟨fields ++ [qualifier, column]⟩ ⟨some qualifier, column⟩

theorem resolve?_eq_some_iff : c.resolve? A = some fc ↔ Denotes A c fc := by
  constructor
  case mp =>
    intro h
    obtain ⟨column, hc, rfl⟩ := Option.map_eq_some_iff.mp h
    obtain ⟨fields, hf⟩ := List.getLast?_eq_some_iff.mp hc
    obtain rfl : c = ⟨fields ++ [column]⟩ := congrArg Column.mk hf
    rcases fields.eq_nil_or_concat with rfl | ⟨fields, qualifier, rfl⟩
    case inl => exact .plain
    case inr =>
      rw [List.concat_eq_append, Column.qualifier?, List.dropLast_concat, List.getLast?_concat,
        Option.map_some, List.append_assoc]
      cases ha : A.resolve? qualifier
      case none   => exact .raw ha
      case some _ => exact .aliased ha
  case mpr =>
    intro h
    cases h <;> simp [Column.resolve?, Column.column?, Column.qualifier?, *]

section Joins

variable {n item c : Node} {k : Nat} {queue : List Node}

theorem joinIn_join_iff : JoinIn (.join j) i ↔ i = j ∨ JoinIn j.larg i ∨ JoinIn j.rarg i := by
  constructor
  case mp =>
    intro h
    cases h
    case here => exact .inl rfl
    case left h => exact .inr (.inl h)
    case right h => exact .inr (.inr h)
  case mpr =>
    rintro (rfl | h | h)
    · exact .here
    · exact .left h
    · exact .right h

theorem not_joinIn (hn : ∀ j, n ≠ .join j) : ¬JoinIn n i := by
  intro h
  cases h <;> exact hn _ rfl

-- With as many steps as there are nodes the queue is worked off.
theorem mem_joinConditions (hk : Node.sizeList queue ≤ k) : c ∈ joinConditions k queue ↔
    ∃ item ∈ queue, ∃ j, JoinIn item j ∧ j.quals = some c := by
  induction k generalizing queue
  case zero =>
    cases queue
    case nil => simp [joinConditions]
    case cons n _ =>
      have := n.size_pos
      simp only [Node.sizeList_cons] at hk
      omega
  case succ k hi =>
    unfold joinConditions
    split
    case h_1 => simp
    case h_2 => contradiction
    case h_3 k' j rest hk' =>
      cases hk'
      have hk : Node.sizeList (rest ++ [j.larg, j.rarg]) ≤ k := by
        simp only [Node.size, Node.sizeList_append, Node.sizeList_cons, Node.sizeList_nil] at hk ⊢
        omega
      simp only [List.mem_append, Option.mem_toList, hi hk, List.mem_cons, List.not_mem_nil,
        or_false, or_and_right, exists_or, exists_eq_left, joinIn_join_iff]
      grind
    case h_4 k' n rest hn hk' =>
      cases hk'
      have hk : Node.sizeList rest ≤ k := by
        have := n.size_pos
        simp only [Node.sizeList_cons] at hk
        omega
      simp [hi hk, not_joinIn hn]

theorem mem_itemConditions : c ∈ itemConditions item ↔ ∃ j, JoinIn item j ∧ j.quals = some c := by
  have h : Node.sizeList [item] ≤ item.size := by simp
  simp [itemConditions, mem_joinConditions h]

theorem sizeList_joinConditions (k : Nat) (queue : List Node) :
    Node.sizeList (joinConditions k queue) ≤ Node.sizeList queue := by
  fun_induction joinConditions k queue
  case case1 | case2 => simp
  case case3 k j rest hi =>
    simp only [Node.size, Node.sizeList_append, Node.sizeList_cons, Node.sizeList_nil,
      Node.sizeList_toList] at hi ⊢
    omega
  case case4 k n rest _ hi =>
    simp only [Node.sizeList_cons]
    omega

end Joins

section Weight

-- How many nodes wait, with everything below them.
def Pending.weight (p : Pending) : Nat := Node.sizeList p.statements + Node.sizeList p.conditions

-- An item is a sub-select or a join, never both.
theorem weight_item (item : Node) :
    Node.sizeOption (derivedQuery? item) + Node.sizeList (itemConditions item) ≤ item.size := by
  have hj := sizeList_joinConditions item.size [item]
  cases item
  case derived d =>
    simp [derivedQuery?, itemConditions, Node.size, Nat.add_comm 1, joinConditions]
  all_goals simpa [derivedQuery?, itemConditions] using hj

theorem weight_fromClause (items : List Node) :
    Node.sizeList (items.filterMap derivedQuery?) + Node.sizeList (items.flatMap itemConditions) ≤
      Node.sizeList items := by
  induction items
  case nil => simp
  case cons item items hi =>
    have := weight_item item
    simp only [Node.sizeList_filterMap_cons, List.flatMap_cons, Node.sizeList_append,
      Node.sizeList_cons]
    omega

theorem weight_cteQueries (clause : Option Node) :
    Node.sizeList (cteQueries clause) ≤ Node.sizeOption clause := by
  unfold cteQueries
  split
  case h_2 => simp
  case h_1 w =>
    have h : Node.sizeList (w.ctes.filterMap cteQuery?) ≤ Node.sizeList w.ctes := by
      induction w.ctes
      case nil => simp
      case cons n _ hi =>
        have hn : Node.sizeOption (cteQuery? n) ≤ n.size := by
          cases n <;> simp [cteQuery?, Node.size]
        simp only [Node.sizeList_filterMap_cons, Node.sizeList_cons]
        omega
    simp only [Node.sizeOption_some, Node.size]
    omega

theorem weight_ofStatement (n : Node) : (ofStatement n).weight < n.size := by
  cases n
  case select s =>
    have := weight_fromClause s.fromClause
    have := weight_cteQueries s.withClause
    simp only [ofStatement, Node.size_select]
    split <;> simp [Pending.weight] <;> omega
  all_goals
    simp [ofStatement, Pending.weight, Node.size]
    try omega

theorem weight_ofCondition (n : Node) : (ofCondition n).weight < n.size := by
  cases n
  all_goals
    simp [ofCondition, Pending.weight, Node.size]
    try omega

end Weight

section Walk

open Relation

-- A node with the queue that it waits in.
inductive Visit where
  | statement (n : Node)
  | condition (n : Node)

def Pending.Holds (p : Pending) : Visit → Prop
  | .statement n => n ∈ p.statements
  | .condition n => n ∈ p.conditions

def Visit.brings : Visit → Pending
  | .statement n => ofStatement n
  | .condition n => ofCondition n

def Visit.Next (v w : Visit) : Prop := v.brings.Holds w

@[simp]
theorem Pending.holds_statement {p : Pending} : p.Holds (.statement n) ↔ n ∈ p.statements := .rfl

@[simp]
theorem Pending.holds_condition {p : Pending} : p.Holds (.condition n) ↔ n ∈ p.conditions := .rfl

@[simp]
theorem Visit.next_of_statement : Next (.statement n) w ↔ (ofStatement n).Holds w := .rfl

@[simp]
theorem Visit.next_of_condition : Next (.condition n) w ↔ (ofCondition n).Holds w := .rfl

-- The node will be looked at as a condition.
def Reaches (p : Pending) (n : Node) : Prop :=
  ∃ v, p.Holds v ∧ ReflTransGen Visit.Next v (.condition n)

-- The column is among the result of a walk that goes on from here.
def Found (A : AliasMap) (p : Pending) (columns : List FilterColumn) (fc : FilterColumn) : Prop :=
  fc ∈ columns ∨ ∃ n, Reaches p n ∧ ofNode? A n = some fc

variable {A : AliasMap} {p q : Pending} {v w : Visit} {n : Node} {columns : List FilterColumn}
  {fc : FilterColumn}

theorem holds_append : (p.append q).Holds v ↔ p.Holds v ∨ q.Holds v := by
  cases v <;> simp [Pending.append]

-- Taking a visit from the queues and adding what it brings loses nothing but the visit itself.
theorem reaches_iff_of_take (h : ∀ w, p.Holds w ↔ w = v ∨ q.Holds w) :
    Reaches p n ↔ v = .condition n ∨ Reaches (q.append v.brings) n := by
  constructor
  case mp =>
    intro ⟨w, hw, path⟩
    obtain rfl | hw := (h w).mp hw
    · obtain rfl | ⟨w', hw', path⟩ := path.cases_head
      · exact .inl rfl
      · exact .inr ⟨w', holds_append.mpr (.inr hw'), path⟩
    · exact .inr ⟨w, holds_append.mpr (.inl hw), path⟩
  case mpr =>
    rintro (rfl | ⟨w, hw, path⟩)
    · exact ⟨_, (h _).mpr (.inl rfl), .refl⟩
    · obtain hw | hw := holds_append.mp hw
      · exact ⟨w, (h w).mpr (.inr hw), path⟩
      · exact ⟨v, (h v).mpr (.inl rfl), .head hw path⟩

theorem reaches_stepStatement : Reaches (stepStatement p) n ↔ Reaches p n := by
  unfold stepStatement
  split
  case h_1 => rfl
  case h_2 s rest hs =>
    have h : ∀ w, p.Holds w ↔ w = .statement s ∨ Pending.Holds { p with statements := rest } w := by
      intro w
      cases w <;> simp [hs]
    simp [reaches_iff_of_take h, Visit.brings]

theorem mem_add {o : Option FilterColumn} : fc ∈ add columns o ↔ fc ∈ columns ∨ o = some fc := by
  cases o
  case none => simp [add]
  case some c =>
    simp only [add]
    split <;> simp_all [eq_comm]

theorem found_stepCondition (h : stepCondition A p columns = (p', columns')) :
    Found A p' columns' fc ↔ Found A p columns fc := by
  unfold stepCondition at h
  split at h <;> cases h
  case h_1.refl => rfl
  case h_2.refl c rest hc =>
    have h : ∀ w, p.Holds w ↔ w = .condition c ∨ Pending.Holds { p with conditions := rest } w := by
      intro w
      cases w <;> simp [hc]
    simp [Found, reaches_iff_of_take h, Visit.brings, mem_add, or_and_right, exists_or, or_assoc]

theorem not_reaches_of_empty (hs : p.statements = []) (hc : p.conditions = []) : ¬Reaches p n := by
  intro ⟨v, hv, _⟩
  cases v <;> simp [hs, hc] at hv

theorem weight_append : (p.append q).weight = p.weight + q.weight := by
  simp only [Pending.append, Pending.weight, Node.sizeList_append]
  omega

theorem weight_stepStatement :
    stepStatement p = p ∧ p.statements = [] ∨ (stepStatement p).weight < p.weight := by
  unfold stepStatement
  split
  case h_1 hs => exact .inl ⟨rfl, hs⟩
  case h_2 s rest hs =>
    right
    have := weight_ofStatement s
    rw [weight_append]
    simp only [Pending.weight, hs, Node.sizeList_cons] at *
    omega

theorem weight_stepCondition (h : stepCondition A p columns = (p', columns')) :
    p' = p ∧ p.conditions = [] ∨ p'.weight < p.weight := by
  unfold stepCondition at h
  split at h <;> cases h
  case h_1.refl hc => exact .inl ⟨rfl, hc⟩
  case h_2.refl c rest hc =>
    right
    have := weight_ofCondition c
    rw [weight_append]
    simp only [Pending.weight, hc, Node.sizeList_cons] at *
    omega

-- A round that leaves something to do takes at least one node away for good.
theorem weight_round (h : stepCondition A (stepStatement p) columns = (p', columns'))
    (more : ¬(p'.statements.isEmpty && p'.conditions.isEmpty)) : p'.weight < p.weight := by
  obtain ⟨rfl, hc⟩ | hc := weight_stepCondition h <;>
    obtain ⟨hp, hs⟩ | hs := weight_stepStatement (p := p)
  · simp [hp ▸ hc, hp, hs] at more
  · exact hs
  · exact hp ▸ hc
  · omega

-- The walk finds what can be reached, whatever the order in which the queues feed each other.
theorem mem_run (hk : p.weight < k) : fc ∈ run A k p columns ↔ Found A p columns fc := by
  induction k generalizing p columns
  case zero => omega
  case succ k hi =>
    rcases hs : stepCondition A (stepStatement p) columns with ⟨p', columns'⟩
    have round : Found A p' columns' fc ↔ Found A p columns fc := by
      rw [found_stepCondition hs]
      simp only [Found, reaches_stepStatement]
    simp only [run, hs]
    split
    case isTrue empty =>
      rw [← round]
      simp only [Bool.and_eq_true, List.isEmpty_iff] at empty
      simp [Found, not_reaches_of_empty empty.left empty.right]
    case isFalse more =>
      have := weight_round hs more
      rw [hi (by omega), round]

theorem nodup_add {o : Option FilterColumn} (h : columns.Nodup) : (add columns o).Nodup := by
  cases o
  case none => exact h
  case some c =>
    simp only [add]
    split
    case isTrue => exact h
    case isFalse hc =>
      have hc : c ∉ columns := by simpa using hc
      simp only [List.nodup_append, h, List.nodup_cons, List.not_mem_nil, not_false_eq_true,
        List.nodup_nil, true_and, List.mem_singleton]
      rintro a ha _ rfl rfl
      exact hc ha

theorem nodup_run (h : columns.Nodup) : (run A k p columns).Nodup := by
  induction k generalizing p columns
  case zero => exact h
  case succ k hi =>
    rcases hs : stepCondition A (stepStatement p) columns with ⟨p', columns'⟩
    have h : columns'.Nodup := by
      unfold stepCondition at hs
      split at hs <;> cases hs
      · exact h
      · exact nodup_add h
    simp only [run, hs]
    split
    · exact h
    · exact hi h

end Walk

section Position

open Relation

variable {S : List Node} {s : Select Node} {v w : Visit} {n : Node}

theorem ofStatement_plain (h : s.op = .none) : ofStatement (.select s) = {
    statements := s.fromClause.filterMap derivedQuery? ++ cteQueries s.withClause
    conditions := s.fromClause.flatMap itemConditions ++ s.whereClause.toList } := by
  simp [ofStatement, Select.isSetOperation, h]

theorem ofStatement_setOperation (h : s.op ≠ .none) :
    ofStatement (.select s) = { statements := s.larg.toList ++ s.rarg.toList } := by
  simp [ofStatement, Select.isSetOperation, h]

theorem mem_derivedQueries {items : List Node} :
    m ∈ items.filterMap derivedQuery? ↔ ∃ d, .derived d ∈ items ∧ d.subquery = m := by
  rw [List.mem_filterMap]
  constructor
  case mp =>
    intro ⟨n, hn, h⟩
    cases n <;> cases h
    exact ⟨_, hn, rfl⟩
  case mpr =>
    rintro ⟨d, hd, rfl⟩
    exact ⟨_, hd, rfl⟩

theorem mem_cteQueries : m ∈ cteQueries clause ↔
    ∃ w c, clause = some (.with w) ∧ .cte c ∈ w.ctes ∧ c.ctequery = m := by
  constructor
  case mp =>
    intro h
    unfold cteQueries at h
    split at h
    case h_1 w =>
      have ⟨n, hn, h⟩ := List.mem_filterMap.mp h
      cases n <;> cases h
      exact ⟨w, _, rfl, hn, rfl⟩
    case h_2 => cases h
  case mpr =>
    rintro ⟨w, c, rfl, hc, rfl⟩
    exact List.mem_filterMap.mpr ⟨_, hc, rfl⟩

-- A visit that the rules allow.
def Visit.Position (S : List Node) : Visit → Prop
  | .statement n => StatementPosition S n
  | .condition n => FilterPosition S n

theorem position_of_ofStatement (hn : StatementPosition S n) (h : (ofStatement n).Holds v) :
    v.Position S := by
  cases n
  case select s =>
    by_cases ho : s.op = .none
    case pos =>
      rw [ofStatement_plain ho] at h
      cases v
      case statement m =>
        obtain h | h := List.mem_append.mp h
        · obtain ⟨d, hd, rfl⟩ := mem_derivedQueries.mp h
          exact .derived hn ho hd
        · obtain ⟨w, c, hw, hc, rfl⟩ := mem_cteQueries.mp h
          exact .cte hn ho hw hc
      case condition m =>
        obtain h | h := List.mem_append.mp h
        · have ⟨item, hi, h⟩ := List.mem_flatMap.mp h
          have ⟨j, hj, hq⟩ := mem_itemConditions.mp h
          exact .quals hn ho hi hj hq
        · exact .selectWhere hn ho (Option.mem_toList.mp h)
    case neg =>
      rw [ofStatement_setOperation ho] at h
      cases v
      case statement m =>
        obtain h | h := List.mem_append.mp h
        · exact .larg hn ho (Option.mem_toList.mp h)
        · exact .rarg hn ho (Option.mem_toList.mp h)
      case condition => cases h
  case update u =>
    cases v
    case statement   => cases h
    case condition m => exact .updateWhere hn (Option.mem_toList.mp h)
  case delete d =>
    cases v
    case statement   => cases h
    case condition m => exact .deleteWhere hn (Option.mem_toList.mp h)
  all_goals cases v <;> cases h

theorem position_of_ofCondition (hn : FilterPosition S n) (h : (ofCondition n).Holds v) :
    v.Position S := by
  cases n
  case operator o =>
    cases v
    case statement => cases h
    case condition m =>
      obtain h | h := List.mem_append.mp h
      · exact .lexpr hn (Option.mem_toList.mp h)
      · exact .rexpr hn (Option.mem_toList.mp h)
  case row r =>
    cases v
    case statement   => cases h
    case condition m => exact .rowArg hn h
  case nullTest t =>
    cases v
    case statement   => cases h
    case condition m => exact List.mem_singleton.mp h ▸ .nullTest hn
  case call c =>
    cases v
    case statement   => cases h
    case condition m => exact .callArg hn h
  case sublink l =>
    cases v
    case statement m => exact List.mem_singleton.mp h ▸ .subselect hn
    case condition m => exact .testexpr hn (Option.mem_toList.mp h)
  all_goals cases v <;> cases h

-- Every rule is a step of the walk.
def Arrives (S : List Node) (v : Visit) : Prop :=
  ∃ s ∈ S, ReflTransGen Visit.Next (.statement s) v

theorem Arrives.next (h : Arrives S v) (hn : v.Next w) : Arrives S w :=
  have ⟨s, hs, path⟩ := h
  ⟨s, hs, path.tail hn⟩

mutual

theorem StatementPosition.arrives {n : Node} : StatementPosition S n → Arrives S (.statement n)
  | .top h => ⟨n, h, .refl⟩
  | .derived h ho hd => h.arrives.next <| by
    simp only [Visit.next_of_statement, Pending.holds_statement, ofStatement_plain ho]
    exact List.mem_append_left _ (mem_derivedQueries.mpr ⟨_, hd, rfl⟩)
  | .cte h ho hw hc => h.arrives.next <| by
    simp only [Visit.next_of_statement, Pending.holds_statement, ofStatement_plain ho]
    exact List.mem_append_right _ (mem_cteQueries.mpr ⟨_, _, hw, hc, rfl⟩)
  | .larg h ho hn | .rarg h ho hn => h.arrives.next <| by
    simp [ofStatement_setOperation ho, hn]
  | .subselect h => h.arrives.next <| by
    simp [ofCondition]

theorem FilterPosition.arrives {n : Node} : FilterPosition S n → Arrives S (.condition n)
  | .selectWhere h ho hn => h.arrives.next <| by
    simp [ofStatement_plain ho, hn]
  | .quals h ho hi hj hn => h.arrives.next <| by
    simp only [Visit.next_of_statement, Pending.holds_condition, ofStatement_plain ho]
    have hn := mem_itemConditions.mpr ⟨_, hj, hn⟩
    exact List.mem_append_left _ (List.mem_flatMap.mpr ⟨_, hi, hn⟩)
  | .updateWhere h hn | .deleteWhere h hn => h.arrives.next <| by
    simp [ofStatement, hn]
  | .lexpr h hn | .rexpr h hn | .rowArg h hn | .callArg h hn | .testexpr h hn =>
    h.arrives.next <| by simp [ofCondition, hn]
  | .nullTest h => h.arrives.next <| by
    simp [ofCondition]

end

theorem Arrives.position (h : Arrives S v) : v.Position S := by
  have ⟨s, hs, path⟩ := h
  induction path
  case refl => exact StatementPosition.top hs
  case tail v w path hn hi =>
    have hv := hi ⟨s, hs, path⟩
    cases v
    case statement => exact position_of_ofStatement hv hn
    case condition => exact position_of_ofCondition hv hn

theorem reaches_iff : Reaches { statements := S } n ↔ FilterPosition S n := by
  constructor
  case mp =>
    intro ⟨v, hv, path⟩
    cases v
    case statement s => exact Arrives.position ⟨s, hv, path⟩
    case condition   => cases hv
  case mpr =>
    intro h
    have ⟨s, hs, path⟩ := h.arrives
    exact ⟨.statement s, hs, path⟩

end Position

theorem ofNode?_eq_some_iff : ofNode? A n = some fc ↔ ∃ c, n = .column c ∧ Denotes A c fc := by
  cases n <;> simp [ofNode?, resolve?_eq_some_iff]

theorem mem_filterColumns {S : List Node} {A : AliasMap} {fc : FilterColumn} :
    fc ∈ filterColumns S A ↔ ∃ c, FilterPosition S (.column c) ∧ Denotes A c fc := by
  unfold filterColumns
  rw [mem_run (by simp [Pending.weight])]
  simp only [Found, List.not_mem_nil, false_or, reaches_iff, ofNode?_eq_some_iff]
  constructor
  · rintro ⟨_, h, c, rfl, hc⟩
    exact ⟨c, h, hc⟩
  · intro ⟨c, h, hc⟩
    exact ⟨_, h, c, rfl, hc⟩

-- The filter columns are the columns in filter position, each of them once.
theorem mem_filterColumns_iff (S : List Node) (A : AliasMap) :
    (filterColumns S A).Nodup ∧ ∀ fc, fc ∈ filterColumns S A ↔
      ∃ c, FilterPosition S (.column c) ∧ Denotes A c fc :=
  ⟨nodup_run List.nodup_nil, fun _ => mem_filterColumns⟩

end SqlLens.Filter
