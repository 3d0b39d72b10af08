import SqlLens.Proofs.Node.Regroup
import SqlLens.Proofs.Render.Layout
import SqlLens.Proofs.Sql.Spelled
import SqlLens.Sql.ToNode

namespace SqlLens.Sql

-- Where a node is written: by itself, beside an operator, as an arm of a set operation, or as the
-- right arm of a join.
inductive Place where
  | whole
  | side (operator : OperatorKind)
  | arm
  | joined

-- How the operands of an operator are written.
def sideManner (kind : OperatorKind) : Manner :=
  if kind.isConnective || kind == .not then .below kind else .operand

namespace Place

def manner : Place → Manner
  | whole => .plain
  | side operator => sideManner operator
  | arm => .arm
  | joined => .joined

-- The nodes that need parentheses in the place. Beside a connective that is the other connective,
-- beside a negation both of them, beside any other operator every operator; an arm of a set
-- operation with clauses of its own or arms of its own; a join in a join.
def encloses : Place → Node → Bool
  | side .and, .operator o => o.kind == .or
  | side .or, .operator o => o.kind == .and
  | side .not, .operator o => o.kind == .and || o.kind == .or
  | side _, .operator _ => true
  | arm, .select s =>
    s.op != .none || s.withClause.isSome || !s.sortClause.isEmpty || s.limitCount.isSome ||
      s.limitOffset.isSome
  | joined, .join _ => true
  | _, _ => false

end Place

-- The nodes of a part. A star leaves none among the arguments of a call.
def Part.nodes : Part → List Node
  | expr e _ _ => [e.toNode]
  | item i => [i.toNode]
  | argument i => argumentNodes [i]
  | order o => [o.toNode]
  | factor s | source s => [s.toNode]
  | cte c => [c.toNode]
  | term b | body b => [b.toNode]
  | query q => [q.toNode]

-- The text of a node that is kept as text, or of a target for one.
def keptText? : Node → Option String
  | .other o | .target ⟨none, some (.other o)⟩ => o.sql
  | _ => none

-- A query without clauses around it.
def isBody : Node → Bool
  | .select s => s.withClause.isNone && s.sortClause.isEmpty && s.limitCount.isNone &&
    s.limitOffset.isNone
  | _ => false

-- The word is spelled as the renderer spells its name.
def Word.Rendered (w : Word) : Prop := ∃ name, w = .ofName name

-- Another name as the renderer writes it.
structure Naming.Rendered (a : Naming) : Prop where
  name : a.name.Rendered
  bare : a.name.isTableAlias
  implicit : a.explicit = false
  columns : a.columns = []

-- `Legible place part text ts levels`: in this place the node of the part is written as the text,
-- which is a spelling of the part. Parentheses stand where the place needs them; what stands without
-- them has to bind tightly enough. A construct that is kept as text stands where its text is a
-- spelling of it.
inductive Legible : Place → Part → String → List Token → Nat → Prop
  | deepen {p part text ts k k'} : Legible p part text ts k → k ≤ k' → Legible p part text ts k'
  | loosen {p e g h g' h' text ts k} : Legible p (.expr e g h) text ts k → g' ≤ g → h' ≤ h →
    Legible p (.expr e g' h') text ts k
  | kept {part n text ts k} : Spelled part text ts k → part.nodes = [n] → keptText? n = some text →
    Legible .whole part text ts k
  -- Nodes in their places.
  | bare {p part text ts k} : Legible .whole part text ts k →
    (∀ n ∈ part.nodes, p.encloses n = false) → Legible p part text ts k
  | enclosedSide {kind e text ts k} : Legible .whole (.expr e 1 0) text ts k →
    (Place.side kind).encloses e.toNode →
    Legible (.side kind) (.expr (.nested e) 100 100) ("(" ++ text ++ ")") (parenTokens ts) (k + 1)
  | enclosedArm {q text ts k} : Legible .whole (.query q) text ts k →
    Place.arm.encloses q.toNode →
    Legible .arm (.term (.query q)) ("(" ++ text ++ ")") (parenTokens ts) k
  | enclosedJoin {s text ts k} : Legible .whole (.source s) text ts k →
    Place.joined.encloses s.toNode → s.isJoin → startsQuery ts = false → openings ts + 1 ≤ k →
    Legible .joined (.factor (.nested s none)) ("(" ++ text ++ ")" ++ namingText none)
      (parenTokens ts ++ namingTokens none) k
  -- Columns and constants.
  | column {w : Word} {ws} : (∀ w' ∈ w :: ws, w'.Rendered) → (∀ w' ∈ w :: ws, w'.isFree) →
    (∀ w' ∈ w :: ws, w'.ident.folded ≠ "*") →
    Legible .whole (.expr (pathExpr w.ident (ws.map Word.ident)) 100 100)
      (".".intercalate ((w :: ws).map Word.text)) (pathTokens ((w :: ws).map Word.token)) ws.length
  | const {c} : isOrdinary c →
    Legible .whole (.expr (.literal (constLiteral c)) 100 100) (Render.const c) [constToken c] 0
  | parameter {name} : isParameter name →
    Legible .whole (.expr (.literal (.placeholder name)) 100 100) name [.placeholder name] 0
  -- Operators.
  | sign {op e g h text ts k} : op ∈ signSymbols → Legible (.side .op) (.expr e g h) text ts k →
    40 < g →
    Legible .whole (.expr (.unary op e) 100 (min 40 h)) (op ++ " " ++ text) (.symbol op :: ts)
      (k + 1)
  | negation {e g h text ts k} : Legible (.side .not) (.expr e g h) text ts k → 15 < g →
    startsExists ts = false →
    Legible .whole (.expr (.unary "NOT" e) 100 (min 15 h)) ("NOT " ++ text) (.ofWord "NOT" :: ts)
      (k + 1)
  | dyadic {kind name mk op ots s l lg lh ltext lts lk r rg rh rtext rts rk} :
    Infix mk op ots s →
    (∀ l r, (mk l r).toNode = .operator ⟨kind, name, some l.toNode, some r.toNode⟩) →
    Legible (.side kind) (.expr l lg lh) ltext lts lk → s ≤ lh →
    Legible (.side kind) (.expr r rg rh) rtext rts rk → s < rg →
    Legible .whole (.expr (mk l r) (min lg s) (min s rh)) (ltext ++ " " ++ op ++ " " ++ rtext)
      (lts ++ (ots ++ rts)) (max lk (rk + 1))
  -- Tests.
  | isNull {e g h text ts k} (negated : Bool) : Legible (.side .op) (.expr e g h) text ts k →
    17 ≤ h →
    Legible .whole (.expr (.isNull e negated) (min g 17) 100)
      (text ++ " IS " ++ notWord negated ++ "NULL")
      (ts ++ .ofWord "IS" :: (notTokens negated ++ [.ofWord "NULL"])) k
  | tuple {xs : List (Entry Expr)} {k} : 2 ≤ xs.length →
    (∀ x ∈ xs, Legible .whole (.expr x.tree 1 0) x.text x.tokens k) →
    Legible .whole (.expr (.tuple (xs.map (·.tree))) 100 100)
      ("(" ++ commas (xs.map (·.text)) ++ ")")
      (parenTokens (commaTokens (xs.map (·.tokens)))) (k + 1)
  | among {e g h text ts k ik} {xs : List (Entry Expr)} (negated : Bool) :
    Legible (.side .in) (.expr e g h) text ts k → 20 ≤ h → xs ≠ [] →
    (∀ x ∈ xs, Legible .whole (.expr x.tree 1 0) x.text x.tokens ik) →
    startsQuery (commaTokens (xs.map (·.tokens))) = false →
    Legible .whole (.expr (.inList e (xs.map (·.tree)) negated) (min g 20) 100)
      (text ++ " " ++ notWord negated ++ "IN (" ++ commas (xs.map (·.text)) ++ ")")
      (ts ++ (notTokens negated ++ .ofWord "IN" :: parenTokens (commaTokens (xs.map (·.tokens)))))
      (max k (max (ik + 1) (openings (commaTokens (xs.map (·.tokens))) + 1)))
  | range {e g h text ts k low lg lh ltext lts lk high ug uh utext uts uk} (negated : Bool) :
    Legible (.side .between) (.expr e g h) text ts k → 20 ≤ h →
    Legible (.side .between) (.expr low lg lh) ltext lts lk → 20 < lg → 10 ≤ lh →
    Legible (.side .between) (.expr high ug uh) utext uts uk → 20 < ug →
    Legible .whole (.expr (.between e negated low high) (min g 20) (min 20 uh))
      (text ++ " " ++ notWord negated ++ "BETWEEN " ++ ltext ++ " AND " ++ utext)
      (ts ++ (notTokens negated ++ .ofWord "BETWEEN" :: (lts ++ .ofWord "AND" :: uts)))
      (max k (max lk uk + 1))
  | quantified {e g h text ts k op r rtext rts rk} (all : Bool) : op ∈ Words.comparisons →
    Legible (.side .any) (.expr e g h) text ts k → 20 ≤ h →
    Legible .whole (.expr r 21 0) rtext rts rk → (∀ q, r ≠ .subquery q) →
    Legible .whole (.expr (compared all e op r) (min g 20) 100)
      (text ++ " " ++ op ++ " " ++ quantifierWord all ++ "(" ++ rtext ++ ")")
      (ts ++ .symbol op :: .ofWord (quantifierWord all) :: parenTokens rts) (max k (rk + 1))
  -- Queries inside expressions. A comparison with any row of a query is written as `IN` if it is one
  -- for equality.
  | subquery {q text ts k} : Legible .whole (.query q) text ts k → Begins (·.beginsQuery) ts →
    Legible .whole (.expr (.subquery q) 100 100) ("(" ++ text ++ ")") (parenTokens ts) k
  | existence {q text ts k} : Legible .whole (.query q) text ts k → Begins (·.beginsQuery) ts →
    Legible .whole (.expr (.exists q false) 100 100) ("EXISTS (" ++ text ++ ")")
      (.ofWord "EXISTS" :: parenTokens ts) k
  | nonexistence {q text ts k} : Legible .whole (.query q) text ts k → Begins (·.beginsQuery) ts →
    Legible .whole (.expr (.exists q true) 100 100) ("NOT EXISTS (" ++ text ++ ")")
      (.ofWord "NOT" :: .ofWord "EXISTS" :: parenTokens ts) k
  | amongRows {e g h text ts k q qtext qts qk} : Legible (.side .any) (.expr e g h) text ts k →
    20 ≤ h → Legible .whole (.query q) qtext qts qk → Begins (·.beginsQuery) qts →
    Legible .whole (.expr (.inQuery e q false) (min g 20) 100)
      (text ++ " " ++ notWord false ++ "IN (" ++ qtext ++ ")")
      (ts ++ (notTokens false ++ .ofWord "IN" :: parenTokens qts)) (max k qk)
  | quantifiedRows {e g h text ts k op q qtext qts qk} (all : Bool) : op ∈ Words.comparisons →
    (op = "=" → all) → Legible (.side .any) (.expr e g h) text ts k → 20 ≤ h →
    Legible .whole (.query q) qtext qts qk → Begins (·.beginsQuery) qts →
    Legible .whole (.expr (compared all e op (.subquery q)) (min g 20) 20)
      (text ++ " " ++ op ++ " " ++ quantifierWord all ++ " (" ++ qtext ++ ")")
      (ts ++ .symbol op :: .ofWord (quantifierWord all) :: parenTokens qts) (max k (qk + 1))
  -- Calls. The name of the function is written as it was spelled.
  | call {c : Invocation} {k} : c.name.Spelled → c.name.isCallable →
    c.name.ident.toText = c.name.text → c.across = none →
    (∀ x ∈ c.args, Legible .whole (.argument x.tree) x.text x.tokens k) →
    (∀ x ∈ c.args, leadsArguments x.tokens = false) →
    (∀ x ∈ c.order, Legible .whole (.order x.tree) x.text x.tokens k) →
    (∀ x ∈ c.within, Legible .whole (.order x.tree) x.text x.tokens k) →
    (∀ x ∈ c.filter, Legible .whole (.expr x.tree 1 0) x.text x.tokens k) →
    (c.args = [] → c.distinct = false ∧ c.order = []) → c.order = [] ∨ c.within = [] →
    Legible .whole (.expr (.call c.tree) 100 100) c.text c.tokens (k + 1)
  | starCall {c : Invocation} {k} : c.name.Spelled → c.name.isCallable →
    c.name.ident.toText = c.name.text → c.across = none →
    c.args = [⟨.star [], "*", [.symbol "*"]⟩] →
    (∀ x ∈ c.order, Legible .whole (.order x.tree) x.text x.tokens k) →
    (∀ x ∈ c.within, Legible .whole (.order x.tree) x.text x.tokens k) →
    (∀ x ∈ c.filter, Legible .whole (.expr x.tree 1 0) x.text x.tokens k) →
    c.order = [] ∨ c.within = [] →
    Legible .whole (.expr (.call c.tree) 100 100) c.text c.tokens (k + 1)
  | argument {e text ts k} : Legible .whole (.expr e 1 0) text ts k → isNamed ts = false →
    Legible .whole (.argument (.expr e)) text ts (k + 1)
  | order {o : Order} {k} : Legible .whole (.expr o.key.tree 1 0) o.key.text o.key.tokens k →
    o.filling = none → Legible .whole (.order o.tree) o.text o.tokens (k + 1)
  -- Items of a select list.
  | item {e text ts k} : Legible .whole (.expr e 1 0) text ts k → isBareFrom e = false →
    Legible .whole (.item (.expr e)) text ts (k + 1)
  | aliased {w : Word} {e text ts k} : w.Rendered → Legible .whole (.expr e 1 0) text ts k →
    isBareFrom e = false →
    Legible .whole (.item (.aliased e w.ident)) (text ++ " AS " ++ w.text)
      (ts ++ [.ofWord "AS", w.token]) (k + 1)
  | star : Legible .whole (.item (.star [])) "*" [.symbol "*"] 0
  -- Sources.
  | table {t : Relation} : (∀ w ∈ t.name :: t.more, w.Rendered) → t.more.length ≤ 1 →
    t.name.token.keyword ∉ factorWords → t.args = none → (∀ a ∈ t.naming, a.Rendered) →
    Legible .whole (.factor t.tree) t.text t.tokens 0
  | derived {q text ts k} {o : Option Naming} (lateral : Bool) :
    Legible .whole (.query q) text ts k → (∀ a ∈ o, a.Rendered) →
    Legible .whole (.factor (.derived lateral q (o.map Naming.tree)))
      ((if lateral then "LATERAL " else "") ++ "(" ++ text ++ ")" ++ namingText o)
      ((if lateral then [.ofWord "LATERAL"] else []) ++ (parenTokens ts ++ namingTokens o)) k
  | source {s text ts k} : Legible .whole (.factor s) text ts k →
    Legible .whole (.source s) text ts k
  | join {op kind l ltext lts r rtext rts k} {tie : Tie} :
    Legible .whole (.source l) ltext lts k → l.joinsFit →
    Legible .joined (.factor r) rtext rts k →
    (∀ x, tie = .on x → Legible .whole (.expr x.tree 1 0) x.text x.tokens k) →
    (∀ blank ws, tie = .columns blank ws → blank ∧ ws ≠ [] ∧ ∀ w ∈ ws, w.Rendered) →
    JoinOperator.kind? op = some kind → op.keyword = kind.keyword → op ≠ .straight →
    (isUntied op → tie = .none) →
    Legible .whole (.source (.join l false op r tie.tree))
      (ltext ++ " " ++ (if tie.isNatural then "NATURAL " else "") ++ op.keyword ++ " " ++ rtext ++
        tie.text)
      (lts ++ (joinTokens op tie ++ (rts ++ tie.tokens))) (k + 1)
  -- Queries.
  | selection {s : Selection} {k} :
    (∀ xs, s.distinct = .on xs → xs ≠ [] ∧
      ∀ x ∈ xs, Begins (fun t => t.isSymbol ")" = false) x.tokens) →
    (∀ xs, s.distinct = .on xs → ∀ x ∈ xs, Legible .whole (.expr x.tree 1 0) x.text x.tokens k) →
    s.items ≠ [] → (∀ x ∈ s.items, Legible .whole (.item x.tree) x.text x.tokens (k + 1)) →
    (∀ x ∈ s.items, Begins (·.beginsItem) x.tokens) →
    (s.from_ = [] → ∀ x ∈ s.items, x.tree.ends = itemStops) →
    (∀ x ∈ s.from_, Legible .whole (.source x.tree) x.text x.tokens (k + 1)) →
    (∀ x ∈ s.cond, Legible .whole (.expr x.tree 1 0) x.text x.tokens k) →
    (∀ x ∈ s.groups, Legible .whole (.expr x.tree 1 0) x.text x.tokens k) →
    (∀ x ∈ s.groups, beginsGroup x.tokens) →
    (∀ x ∈ s.having, Legible .whole (.expr x.tree 1 0) x.text x.tokens k) →
    Legible .whole (.term (.select s.tree)) s.text s.tokens (k + 1)
  | body {b text ts k} : Legible .whole (.term b) text ts k → Legible .whole (.body b) text ts k
  | setOperation {op quantifier l ltext lts r rtext rts k} : op ≠ SetOperator.minus →
    quantifier = .none ∨ quantifier = .all → Legible .arm (.term l) ltext lts k →
    Legible .arm (.term r) rtext rts k →
    Legible .whole (.body (.setOperation op quantifier l r))
      (ltext ++ " " ++ op.keyword ++ quantifier.toText ++ " " ++ rtext)
      (lts ++ .ofWord op.keyword :: (quantifierTokens quantifier ++ rts)) k
  | cte {c : Common} {k} : c.name.Rendered → (∀ w ∈ c.columns, w.Rendered) →
    Legible .whole (.query c.query.tree) c.query.text c.query.tokens k →
    Legible .whole (.cte c.tree) (c.text false) c.tokens k
  | query {q : Request} {k} :
    (∀ x ∈ q.ctes, Legible .whole (.cte x.tree) x.text x.tokens (k + 1)) →
    (∀ x ∈ q.ctes, Begins (fun t => t.isKeyword "RECURSIVE" = false) x.tokens) →
    (q.ctes = [] → q.recursive = false) →
    Legible .whole (.body q.body.tree) q.body.text q.body.tokens (k + 1) →
    isBody q.body.tree.toNode →
    (∀ x ∈ q.order, Legible .whole (.order x.tree) x.text x.tokens (k + 1)) →
    (∀ x ∈ q.limit, Legible .whole (.expr x.tree 1 0) x.text x.tokens k) →
    (∀ x ∈ q.offset, Legible .whole (.expr x.tree 1 0) x.text x.tokens k) → q.locks = [] →
    Legible .whole (.query q.tree) q.text q.tokens (k + 2)

-- A column of one name.
theorem Legible.name (name : String) (free : (Word.ofName name).isFree) (star : name ≠ "*") :
    Legible .whole (.expr (.ident (Word.ofName name).ident) 100 100) (Word.ofName name).text
      [(Word.ofName name).token] 0 := by
  have rendered : ∀ w ∈ [Word.ofName name], w.Rendered := by simp [Word.Rendered]
  have column := Legible.column rendered (by simpa using free) (by simpa using star)
  simpa only [List.map_nil, List.map_cons, List.length_nil, pathExpr, pathTokens,
    String.intercalate_singleton] using column

theorem Legible.symbol (op : String) {ltext rtext : String} {l r : Expr} {lg lh lk rg rh rk : Nat}
    {lts rts : List Token} (ho : op ∈ infixSymbols)
    (hl : Legible (.side .op) (.expr l lg lh) ltext lts lk) (hs : symbolStrength op ≤ lh)
    (hr : Legible (.side .op) (.expr r rg rh) rtext rts rk) (hg : symbolStrength op < rg) :
    Legible .whole
      (.expr (.binary l op r) (min lg (symbolStrength op)) (min (symbolStrength op) rh))
      (ltext ++ " " ++ op ++ " " ++ rtext) (lts ++ ([.symbol op] ++ rts)) (max lk (rk + 1)) := by
  have same (l r : Expr) :
      (Expr.binary l op r).toNode = .operator ⟨.op, op, some l.toNode, some r.toNode⟩ := by
    rw [Expr.toNode, operatorNode_symbol ho]
  exact .dyadic (.symbol ho) same hl hs hr hg

end SqlLens.Sql
