import SqlLens.Node.Sql
import SqlLens.Proofs.Except

namespace SqlLens.Sql

-- What is left open about queries: the rows of a body that is no query itself, what sorting by some
-- keys does, and the numbers that limits denote. Keys and limits are given by their nodes.
structure Reading (α : Type) where
  body  : Body → List α
  order : List Node → List α → List α
  count : Node → Nat

namespace Reading

variable (r : Reading α)

def sorted (keys : List Node) (rows : List α) : List α :=
  if keys.isEmpty then rows else r.order keys rows

def skipped : Option Node → List α → List α
  | some n => List.drop (r.count n)
  | none   => id

def kept : Option Node → List α → List α
  | some n => List.take (r.count n)
  | none   => id

-- One level: the order comes before the offset, and the offset before the limit.
def level (keys : List Node) (limit offset : Option Node) (rows : List α) : List α :=
  r.kept limit (r.skipped offset (r.sorted keys rows))

-- A node of a query over the rows of a body.
def select (s : SqlLens.Select Node) : List α → List α :=
  r.level s.sortClause s.limitCount s.limitOffset

end Reading

variable {q : Query} {b : Body} {s inner : SqlLens.Select Node} {a : Attached} {r : Reading α}
  {keys : List Node} {limit offset : Option Node}

namespace Body

-- The rows level by level, from the inside out. A body that is no query has the rows it is given.
def rows (r : Reading α) : Body → List α
  | .query ⟨_, _, body, order, _, limits, _⟩ =>
    r.level order.toNodes limits.count? limits.offset? (body.rows r)
  | b => r.body b

-- The body inside all parentheses.
def innermost : Body → Body
  | .query ⟨_, _, body, _, _, _, _⟩ => body.innermost
  | b => b

-- Whether some level has a limit or an offset.
def limited : Body → Bool
  | .query ⟨_, _, body, _, _, limits, _⟩ =>
    limits.count?.isSome || limits.offset?.isSome || body.limited
  | _ => false

-- Whether some level sorts what a level inside it has limited.
def sortsLimited : Body → Bool
  | .query ⟨_, _, body, order, _, _, _⟩ =>
    !order.toNodes.isEmpty && body.limited || body.sortsLimited
  | _ => false

@[simp]
theorem rows_query : (query q).rows r =
    r.level q.order.toNodes q.limits.count? q.limits.offset? (q.body.rows r) := by
  cases q; rfl

@[simp]
theorem innermost_query : (query q).innermost = q.body.innermost := by
  cases q; rfl

@[simp]
theorem limited_query : (query q).limited =
    (q.limits.count?.isSome || q.limits.offset?.isSome || q.body.limited) := by
  cases q; rfl

@[simp]
theorem sortsLimited_query : (query q).sortsLimited =
    (!q.order.toNodes.isEmpty && q.body.limited || q.body.sortsLimited) := by
  cases q; rfl

-- Levels are added to a body that is no query one by one.
theorem levels {P : Body → Prop} (bare : ∀ b, (∀ q, b ≠ .query q) → P b)
    (level : ∀ q, P q.body → P (.query q)) : ∀ b, P b
  | .query ⟨_, _, body, _, _, _, _⟩ => level _ (levels bare level body)
  | .select _ | .setOperation .. | .phrase _ => bare _ nofun

end Body

-- The order and the limits of a node are each those of the level around it, if that has any, and
-- else those of the level inside. Never both levels have them.
structure Merged (keys : List Node) (limit offset : Option Node)
    (inner s : SqlLens.Select Node) : Prop where
  order  : keys = [] ∧ s.sortClause = inner.sortClause ∨
    keys ≠ [] ∧ inner.sortClause = [] ∧ s.sortClause = keys
  limits : (limit = none ∧ offset = none) ∧
      s.limitCount = inner.limitCount ∧ s.limitOffset = inner.limitOffset ∨
    (limit ≠ none ∨ offset ≠ none) ∧ (inner.limitCount = none ∧ inner.limitOffset = none) ∧
      s.limitCount = limit ∧ s.limitOffset = offset

-- Two rows, turned round by every order, of which every limit and every offset takes one.
def Reading.twoRows : Reading Bool where
  body _  := [true, false]
  order _ := List.reverse
  count _ := 1

theorem Attached.merged (h : a.onto? inner = some s) :
    Merged a.sortClause a.limitCount a.limitOffset inner s := by
  unfold onto? at h
  split at h <;> cases h
  rename_i clash
  simp only [Bool.or_eq_true, Bool.and_eq_true, not_or, not_and, Bool.not_eq_true',
    List.isEmpty_eq_false_iff] at clash
  obtain ⟨⟨_, sorted⟩, limited⟩ := clash
  constructor
  case order =>
    by_cases hk : a.sortClause = []
    case pos => simp [hk]
    case neg => exact .inr ⟨hk, Classical.not_not.mp (sorted hk), by simp [hk]⟩
  case limits => cases hc : a.limitCount <;> cases ho : a.limitOffset <;> simp_all [hasLimit]

theorem Attached.exists_merged (h : a.queryNode n text = .select s) :
    ∃ inner, n = .select inner ∧ Merged a.sortClause a.limitCount a.limitOffset inner s := by
  unfold queryNode at h
  split at h
  case h_2 => cases h
  case h_1 inner =>
    split at h <;> cases h
    case h_1 hs => exact ⟨inner, rfl, merged hs⟩

theorem Query.exists_merged (h : q.toNode = .select s) : ∃ inner, q.body.toNode = .select inner ∧
    Merged q.order.toNodes q.limits.count? q.limits.offset? inner s := by
  obtain ⟨recursive, ctes, body, order, interpolate, limits, rest⟩ := q
  rw [Query.toNode] at h
  split at h
  case isFalse => cases h
  case isTrue => exact Attached.exists_merged h

-- A body that is no query has no clauses of a level.
theorem Body.exists_bare (hb : ∀ q, b ≠ .query q) (h : b.toNode = .select s) :
    s.sortClause = [] ∧ s.limitCount = none ∧ s.limitOffset = none := by
  cases b
  case query q => exact absurd rfl (hb q)
  case phrase => cases h
  case select b =>
    obtain ⟨⟩ := b
    rw [Body.toNode, Select.toNode] at h
    split at h <;> cases h
    exact ⟨rfl, rfl, rfl⟩
  case setOperation =>
    rw [Body.toNode] at h
    split at h <;> cases h
    exact ⟨rfl, rfl, rfl⟩

-- A level around a node is part of it if it does not sort rows that the node has limited.
theorem Merged.select (m : Merged keys limit offset inner s)
    (h : keys = [] ∨ inner.limitCount = none ∧ inner.limitOffset = none) (rows : List α) :
    r.select s rows = r.level keys limit offset (r.select inner rows) := by
  obtain ⟨order, limits⟩ := m
  obtain ⟨rfl, sorts⟩ | ⟨hk, unsorted, sorts⟩ := order
  case inl =>
    obtain ⟨⟨rfl, rfl⟩, counts, offsets⟩ | ⟨_, ⟨uncounted, fromStart⟩, counts, offsets⟩ := limits <;>
    simp_all [Reading.select, Reading.level, Reading.sorted, Reading.kept, Reading.skipped]
  case inr =>
    obtain ⟨uncounted, fromStart⟩ := h.resolve_left hk
    obtain ⟨⟨rfl, rfl⟩, counts, offsets⟩ | ⟨_, _, counts, offsets⟩ := limits <;>
    simp_all [Reading.select, Reading.level, Reading.sorted, Reading.kept, Reading.skipped]

namespace Body

theorem limited_eq (h : b.toNode = .select s) :
    b.limited = (s.limitCount.isSome || s.limitOffset.isSome) := by
  induction b using levels generalizing s
  case bare b hb =>
    have ⟨_, counts, offsets⟩ := exists_bare hb h
    cases b <;> simp_all [limited]
  case level q ih =>
    have ⟨inner, hb, m⟩ := Query.exists_merged h
    rw [limited_query, ih hb]
    obtain ⟨⟨counts, offsets⟩, h₁, h₂⟩ | ⟨_, ⟨counts, offsets⟩, h₁, h₂⟩ := m.limits <;>
    simp_all

-- Where a level sorts limited rows, the node has both an order and a limit.
theorem sorts_of_sortsLimited (h : b.toNode = .select s) (hs : b.sortsLimited) :
    s.sortClause ≠ [] ∧ (s.limitCount.isSome || s.limitOffset.isSome) := by
  refine ⟨?_, limited_eq h ▸ ?_⟩ <;>
  induction b using levels generalizing s
  case refine_1.bare b hb | refine_2.bare b hb => cases b <;> simp_all [sortsLimited]
  case refine_1.level q ih =>
    have ⟨inner, hb, m⟩ := Query.exists_merged h
    obtain ⟨hk, sorts⟩ | ⟨hk, _, sorts⟩ := m.order
    case inl => exact sorts ▸ ih hb (by simpa [hk] using hs)
    case inr => exact sorts ▸ hk
  case refine_2.level q ih =>
    have ⟨inner, hb, _⟩ := Query.exists_merged h
    rw [sortsLimited_query, Bool.or_eq_true, Bool.and_eq_true] at hs
    obtain ⟨_, limits⟩ | inside := hs
    case inl => simp [limits]
    case inr => simp [ih hb inside]

theorem select_rows (h : b.toNode = .select s) (hs : b.sortsLimited = false) :
    r.select s (r.body b.innermost) = b.rows r := by
  induction b using levels generalizing s
  case bare b hb =>
    have ⟨unsorted, uncounted, fromStart⟩ := exists_bare hb h
    have whole : b.innermost = b ∧ b.rows r = r.body b := by cases b <;> simp_all [innermost, rows]
    simp [Reading.select, Reading.level, Reading.sorted, Reading.kept, Reading.skipped, whole,
      unsorted, uncounted, fromStart]
  case level q ih =>
    have ⟨inner, hb, m⟩ := Query.exists_merged h
    rw [sortsLimited_query, Bool.or_eq_false_iff, limited_eq hb] at hs
    obtain ⟨outside, inside⟩ := hs
    rw [rows_query, ← ih hb inside, innermost_query]
    apply m.select
    by_cases hk : q.order.toNodes = []
    case pos => exact .inl hk
    case neg => exact .inr (by simpa [hk] using outside)

-- Of two rows a limit takes the first, and an offset leaves the second. Sorting what is left keeps
-- it, and sorting before takes the other row.
theorem select_twoRows_ne (h : b.toNode = .select s) (hs : b.sortsLimited) :
    Reading.twoRows.select s [true, false] ≠ b.rows .twoRows := by
  induction b using levels generalizing s
  case bare b hb => cases b <;> simp_all [sortsLimited]
  case level q ih =>
    have ⟨inner, hb, m⟩ := Query.exists_merged h
    rw [rows_query]
    by_cases inside : q.body.sortsLimited
    case pos =>
      have ⟨sorts, limits⟩ := sorts_of_sortsLimited hb inside
      have ⟨hk, h₁⟩ := m.order.resolve_right fun m => sorts m.2.1
      have ⟨⟨hc, ho⟩, h₂, h₃⟩ := m.limits.resolve_right fun m => by simp [m.2.1] at limits
      simpa [Reading.select, Reading.level, Reading.sorted, Reading.kept, Reading.skipped, hk, hc,
        ho, h₁, h₂, h₃] using ih hb inside
    case neg =>
      rw [sortsLimited_query, Bool.or_eq_true, Bool.and_eq_true, limited_eq hb] at hs
      have ⟨sorts, limits⟩ := hs.resolve_right inside
      have ⟨hk, unsorted, h₁⟩ := m.order.resolve_left fun m => by simp [m.1] at sorts
      have ⟨⟨hc, ho⟩, h₂, h₃⟩ := m.limits.resolve_right fun m => by simp [m.2.1] at limits
      rw [← select_rows hb (by simpa using inside)]
      cases hl : inner.limitCount <;> cases hf : inner.limitOffset <;>
      simp_all [Reading.select, Reading.level, Reading.sorted, Reading.kept, Reading.skipped,
        Reading.twoRows]

end Body

namespace Query

-- The rows of a query, and the body that they are the rows of.
def rows (r : Reading α) (q : Query) : List α := (Body.query q).rows r

def innermost (q : Query) : Body := (Body.query q).innermost

def sortsLimited (q : Query) : Bool := (Body.query q).sortsLimited

-- The node of a query, if nothing made it stay text.
def select? (q : Query) : Option (SqlLens.Select Node) :=
  match q.toNode with
  | .select s => some s
  | _ => none

theorem exists_of_select? (h : q.select?.isSome) : ∃ s, q.toNode = .select s := by
  unfold select? at h
  split at h
  case h_1 s hs => exact ⟨s, hs⟩
  case h_2 => cases h

-- What can be computed of the one query of a text holds of a query that the text has.
theorem exists_of_parse {d : Dialect} {text : String} {P : Query → Prop} [DecidablePred P]
    (h : (parse d text).toOption.any fun
      | [.query q] => decide (P q)
      | _ => false) :
    ∃ q, parse d text = .ok [.query q] ∧ P q := by
  obtain ⟨statements, hp, h⟩ := Except.exists_of_any h
  split at h
  case h_1 q => exact ⟨q, hp, of_decide_eq_true h⟩
  case h_2 => cases h

-- The node of a query, read as one level over the innermost body, has the rows of the query whatever
-- bodies, keys and numbers denote if and only if no level sorts what a level inside it has limited.
theorem select_rows_iff (h : q.toNode = .select s) :
    (∀ (α : Type) (r : Reading α), r.select s (r.body q.innermost) = q.rows r) ↔
      q.sortsLimited = false := by
  have hb : (Body.query q).toNode = .select s := h
  constructor
  case mp =>
    intro same
    cases sorts : q.sortsLimited
    case false => rfl
    case true => exact absurd (same Bool .twoRows) (Body.select_twoRows_ne hb sorts)
  case mpr => exact fun hs α r => Body.select_rows hb hs

-- A limit around an order.
theorem select_rows_iff_limit :
    let text := "((SELECT a FROM t) ORDER BY a) LIMIT 2"
    ∃ q s, parse .generic text = .ok [.query q] ∧ q.toNode = .select s ∧
      ∀ (α : Type) (r : Reading α), r.select s (r.body q.innermost) = q.rows r := by
  intro text
  obtain ⟨q, parsed, hs⟩ : ∃ q, parse .generic text = .ok [.query q] ∧
    q.select?.isSome ∧ q.sortsLimited = false := exists_of_parse (by decide +kernel)
  obtain ⟨s, h⟩ := exists_of_select? hs.1
  exact ⟨q, s, parsed, h, (select_rows_iff h).mpr hs.2⟩

-- An order around a limit: the node sorts before it limits.
theorem limited_rows_sorted : ¬∀ text q s, parse .generic text = .ok [.query q] →
    q.toNode = .select s →
    ∀ (α : Type) (r : Reading α), r.select s (r.body q.innermost) = q.rows r := by
  intro same
  let text := "(SELECT a FROM t LIMIT 5) ORDER BY a"
  obtain ⟨q, parsed, hs⟩ : ∃ q, parse .generic text = .ok [.query q] ∧
    q.select?.isSome ∧ q.sortsLimited := exists_of_parse (by decide +kernel)
  obtain ⟨s, h⟩ := exists_of_select? hs.1
  exact Body.select_twoRows_ne (b := .query q) h hs.2 (same text q s parsed h Bool .twoRows)

end Query

end SqlLens.Sql
