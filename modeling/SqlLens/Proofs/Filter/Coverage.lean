import SqlLens.Proofs.Filter

namespace SqlLens.Filter

open Relation

-- What stands in the arms of a join, joins within joins included.
inductive ArmOf : Join Node → Node → Prop
  | larg : ArmOf j j.larg
  | rarg : ArmOf j j.rarg
  | left : j.larg = .join k → ArmOf k n → ArmOf j n
  | right : j.rarg = .join k → ArmOf k n → ArmOf j n

-- The ways in which a query stands inside another one.
inductive Way where
  | arm
  | cte
  | item
  | joined

-- `Inner way s t`: `t` is an arm of the set operation `s`, a named query in front of `s`, or a
-- sub-select in the FROM clause of `s`, as an item of its own or in an arm of a join.
inductive Inner : Way → Select Node → Select Node → Prop
  | larg {s t} : s.op ≠ .none → s.larg = some (.select t) → Inner .arm s t
  | rarg {s t} : s.op ≠ .none → s.rarg = some (.select t) → Inner .arm s t
  | cte {s t} : s.withClause = some (.with w) → .cte c ∈ w.ctes → c.ctequery = .select t →
    Inner .cte s t
  | item {s t} : s.op = .none → .derived d ∈ s.fromClause → d.subquery = .select t →
    Inner .item s t
  | joined {s t} : s.op = .none → .join j ∈ s.fromClause → ArmOf j (.derived d) →
    d.subquery = .select t → Inner .joined s t

-- Whether the walk stops here: it takes no sub-select out of a join, and from a set operation it
-- goes into the arms only.
def Way.missed (s : Select Node) : Way → Bool
  | .joined => true
  | .cte    => s.isSetOperation
  | _       => false

-- The conditions of a plain query: its WHERE clause and those of its joins.
inductive ConditionOf (s : Select Node) : Node → Prop
  | cond : s.whereClause = some n → ConditionOf s n
  | quals : item ∈ s.fromClause → JoinIn item j → j.quals = some n → ConditionOf s n

variable {S : List Node} {s t : Select Node} {way : Way} {n : Node}

theorem Inner.position (h : Inner way s t) (hw : way.missed s = false)
    (hs : StatementPosition S (.select s)) : StatementPosition S (.select t) := by
  cases h
  case larg ho ht => exact .larg hs ho ht
  case rarg ho ht => exact .rarg hs ho ht
  case cte hc hw' ht =>
    have ho : s.op = .none := by simpa [Way.missed, Select.isSetOperation] using hw
    exact ht ▸ .cte hs ho hw' hc
  case item ho hd ht => exact ht ▸ .derived hs ho hd
  case joined => cases hw

theorem position_of_inner (hs : .select s ∈ S)
    (path : ReflTransGen (fun s t => ∃ way, Inner way s t ∧ way.missed s = false) s t) :
    StatementPosition S (.select t) := by
  induction path
  case refl => exact .top hs
  case tail h hi =>
    obtain ⟨_, h, hw⟩ := h
    exact h.position hw hi

theorem ConditionOf.position (h : ConditionOf s n) (ho : s.op = .none)
    (hs : StatementPosition S (.select s)) : FilterPosition S n := by
  cases h
  case cond hn => exact .selectWhere hs ho hn
  case quals hi hj hn => exact .quals hs ho hi hj hn

-- Every column that is an operand of a condition is found, however deep the query lies that has the
-- condition, if no query on the way to it is missed.
theorem condition_columns_found {o : Operator Node} {c : Column} {fc : FilterColumn} {A : AliasMap}
    (hs : .select s ∈ S)
    (path : ReflTransGen (fun s t => ∃ way, Inner way s t ∧ way.missed s = false) s t)
    (ho : t.op = .none) (hn : ConditionOf t (.operator o))
    (operand : o.lexpr = some (.column c) ∨ o.rexpr = some (.column c)) (hc : Denotes A c fc) :
    fc ∈ filterColumns S A := by
  have condition := hn.position ho (position_of_inner hs path)
  have column : FilterPosition S (.column c) := operand.elim condition.lexpr condition.rexpr
  exact mem_filterColumns.mpr ⟨c, column, hc⟩

-- A sub-select of a named query in the arm of a set operation.
theorem condition_columns_found_nested :
    let condition (name : String) : Node :=
      .operator ⟨.op, "=", some (.column ⟨["x", name]⟩), some (.const (.number "1"))⟩
    let deepest : Select Node := {
      fromClause := [.join {
        larg := .table { name := "u" }, rarg := .table { name := "v" }
        quals := some (condition "c") }] }
    let middle : Select Node := { fromClause := [.derived { subquery := .select deepest }] }
    let plain : Select Node := {
      withClause := some (.with { ctes := [.cte { name := "q", ctequery := .select middle }] })
      fromClause := [.table { name := "q" }] }
    let outer : Select Node := {
      op := .union, larg := some (.select {}), rarg := some (.select plain) }
    ⟨some "t", "c"⟩ ∈ filterColumns [.select outer] ⟨[("x", "t")]⟩ := by
  intro condition deepest middle plain outer
  have path : ReflTransGen (fun s t => ∃ way, Inner way s t ∧ way.missed s = false) outer deepest :=
    .tail (.tail (.single ⟨.arm, .rarg nofun rfl, rfl⟩)
      ⟨.cte, .cte rfl (.head _) rfl, rfl⟩) ⟨.item, .item rfl (.head _) rfl, rfl⟩
  have named : Denotes ⟨[("x", "t")]⟩ ⟨[] ++ ["x", "c"]⟩ ⟨some "t", "c"⟩ := .aliased rfl
  exact condition_columns_found (.head _) path rfl (.quals (.head _) .here rfl) (.inl rfl) named

-- The query in a join's arm has a condition on a column that the walk does not find, and so has the
-- named query in front of a union.
theorem missed_queries_not_covered :
    let condition : Node := .operator ⟨.op, "=", some (.column ⟨["b"]⟩), some (.const (.number "1"))⟩
    let query : Select Node := {
      fromClause := [.table { name := "u" }], whereClause := some condition }
    let joined : Select Node := {
      fromClause := [.join {
        larg := .table { name := "t" }, rarg := .derived { subquery := .select query }
        quals := some (.const (.boolean true)) }] }
    let named : Select Node := {
      op := .union, larg := some (.select {}), rarg := some (.select {})
      withClause := some (.with { ctes := [.cte { name := "c", ctequery := .select query }] }) }
    ConditionOf query condition ∧
      Inner .joined joined query ∧ ⟨none, "b"⟩ ∉ filterColumns [.select joined] {} ∧
      Inner .cte named query ∧ ⟨none, "b"⟩ ∉ filterColumns [.select named] {} := by
  intro condition query joined named
  exact ⟨.cond rfl, .joined rfl (.head _) .rarg rfl, by decide, .cte rfl (.head _) rfl, by decide⟩

end SqlLens.Filter
