import SqlLens.Render.Basic

namespace SqlLens

-- How a node is written where it stands.
inductive Manner where
  | plain
  -- Below an operator, or as the value of a test.
  | operand
  | below (parent : OperatorKind)
  -- As an arm of a set operation.
  | arm
  -- As the right arm of a join.
  | joined
  -- As the list that a value is looked for in.
  | listed
  -- As the bounds of a range.
  | range
  -- As an assignment of an update.
  | assignment
deriving DecidableEq

namespace Manner

-- Whether a node is enclosed.
def encloses : Manner → Node → Bool
  | .operand, n => Render.needsParensAsOperand n
  | .below parent, n => Render.needsParensBelow parent n
  | .arm, n => Render.needsParensAsArm n
  | .joined, n => Render.isJoin n
  | .listed, n => !Render.isRow n
  | .plain, _ | .range, _ | .assignment, _ => false

-- The text of a node that is written in this manner.
def render : Manner → Node → Render.Rendered
  | .range, n => (·.getD "") <$> Render.bounds (some n)
  | .assignment, n => Render.joined <$> Render.assignments [n]
  | m, n => Render.parensIf (m.encloses n) <$> Render.node n

def HasText (m : Manner) (n : Node) : Prop := ∃ s, m.render n = .ok s

-- The text, empty if there is none.
def text (m : Manner) (n : Node) : String := (m.render n).toOption.getD ""

end Manner

inductive Segment where
  | text (s : String)
  | part (m : Manner) (n : Node)

namespace Segment

def content : Segment → String
  | text s   => s
  | part m n => m.text n

-- Whether `P` holds of the node, if the segment is one.
def Each (P : Manner → Node → Prop) : Segment → Prop
  | text _   => True
  | part m n => P m n

end Segment

abbrev Layout := List Segment

namespace Layout

-- The layout with the texts of its parts filled in.
def content (l : Layout) : String := String.join (l.map Segment.content)

-- Whether `P` holds of all parts.
def Each (P : Manner → Node → Prop) (l : Layout) : Prop := ∀ segment ∈ l, segment.Each P

def parens (l : Layout) : Layout := .text "(" :: l ++ [.text ")"]

def parensIf (b : Bool) (l : Layout) : Layout := if b then parens l else l

def separated (sep : String) : List Layout → Layout
  | [] => []
  | [l] => l
  | l :: ls => l ++ .text sep :: separated sep ls

def all (ns : List Node) : Layout := separated ", " (ns.map fun n => [.part .plain n])

def all? : List Node → Option Layout
  | [] => none
  | ns => some (all ns)

def part? (o : Option Node) : Option Layout := o.map fun n => [.part .plain n]

def clause (keyword : String) : Option Layout → List Layout
  | some l => [.text (keyword ++ " ") :: l]
  | none   => []

-- What a plain query begins with.
def selectWord (distinct : Bool) : Option Layout → Layout
  | none => [.text (if distinct then "SELECT DISTINCT" else "SELECT")]
  | some on => if distinct then .text "SELECT DISTINCT ON " :: parens on else [.text "SELECT"]

-- The arms of a set operation, or the clauses of a plain query.
def body? (s : Select Node) : Option (List Layout) :=
  if s.op != .none then
    match s.larg, s.rarg with
    | some l, some r =>
      some [[.part .arm l], [.text (Render.setWord s.op s.all)],
        [.part .arm r]]
    | _, _ => none
  else
    some ([selectWord s.distinct (all? s.distinctClause)] ++ (all? s.targetList).toList ++
      clause "FROM" (all? s.fromClause) ++ clause "WHERE" (part? s.whereClause) ++
      clause "GROUP BY" (all? s.groupClause) ++ clause "HAVING" (part? s.havingClause))

def select? (s : Select Node) : Option Layout :=
  (body? s).map fun body => separated " " ((part? s.withClause).toList ++ body ++
    clause "ORDER BY" (all? s.sortClause) ++ clause "LIMIT" (part? s.limitCount) ++
    clause "OFFSET" (part? s.limitOffset))

def update (u : Update Node) : Layout :=
  separated " " ([[.text "UPDATE"], [.part .plain u.relation], [.text "SET"],
    separated ", " (u.targetList.map fun n => [.part .assignment n])] ++
    clause "FROM" (all? u.fromClause) ++ clause "WHERE" (part? u.whereClause))

def delete (d : Delete Node) : Layout :=
  separated " " ([[.text "DELETE FROM ", .part .plain d.relation]] ++
    clause "WHERE" (part? d.whereClause))

def insert (i : Insert Node) : Layout :=
  [.text "INSERT INTO ", .part .plain i.relation] ++
    (match all? i.cols with
      | some cols => .text " " :: parens cols
      | none => []) ++
    [.text " ", (i.selectStmt.map (.part .plain)).getD (.text "DEFAULT VALUES")]

def derived (d : Derived Node) : Layout :=
  .text (if d.lateral then "LATERAL " else "") :: parens [.part .plain d.subquery] ++
    [.text (Render.aliasText d.aliasName)]

def join (j : Join Node) : Layout :=
  [.part .plain j.larg,
    .text (" " ++ (if j.natural then "NATURAL " else "") ++ j.kind.keyword ++ " "),
    .part .joined j.rarg] ++
    match j.quals with
    | some quals => [.text " ON ", .part .plain quals]
    | none => if j.usingClause.isEmpty then []
      else [.text (" USING " ++ Render.parens (Render.quoteIdents j.usingClause))]

def cte (c : Cte Node) : Layout :=
  .text (Render.quoteIdent c.name ++
      (if c.columns.isEmpty then "" else Render.parens (Render.quoteIdents c.columns)) ++ " AS ") ::
    parens [.part .plain c.ctequery]

def target? : Target Node → Option Layout
  | ⟨some name, some val⟩ => some [.part .plain val, .text (" AS " ++ Render.quoteIdent name)]
  | ⟨none, some val⟩ => some [.part .plain val]
  | ⟨some name, none⟩ => some [.text (Render.quoteIdent name)]
  | ⟨none, none⟩ => none

def operator? : Operator Node → Option Layout
  | ⟨.op, name, some l, some r⟩ =>
    some [.part .operand l, .text (" " ++ name ++ " "), .part .operand r]
  | ⟨.op, name, none, some r⟩ => some [.text (name ++ " "), .part .operand r]
  | ⟨.op, name, some l, none⟩ => some [.part .operand l, .text (" " ++ name)]
  | ⟨.any, name, some l, some r⟩ =>
    some ([.part .operand l, .text (" " ++ name ++ " ANY")] ++ parens [.part .plain r])
  | ⟨.all, name, some l, some r⟩ =>
    some ([.part .operand l, .text (" " ++ name ++ " ALL")] ++ parens [.part .plain r])
  | ⟨.and, _, some l, some r⟩ => some [.part (.below .and) l, .text " AND ", .part (.below .and) r]
  | ⟨.or, _, some l, some r⟩ => some [.part (.below .or) l, .text " OR ", .part (.below .or) r]
  | ⟨.not, _, _, some r⟩ => some [.text "NOT ", .part (.below .not) r]
  | ⟨.in, _, some l, some r⟩ => some [.part .operand l, .text " IN ", .part .listed r]
  | ⟨.notIn, _, some l, some r⟩ => some [.part .operand l, .text " NOT IN ", .part .listed r]
  | ⟨.between, _, some l, some r⟩ => some [.part .operand l, .text " BETWEEN ", .part .range r]
  | ⟨.notBetween, _, some l, some r⟩ =>
    some [.part .operand l, .text " NOT BETWEEN ", .part .range r]
  | _ => none

-- The order of a call; whether a blank goes in front depends on the text of the arguments.
def callOrder (withinGroup : Bool) (args : Layout) : Option Layout → Layout
  | none => [.text ")"]
  | some order =>
    if withinGroup then .text ") WITHIN GROUP (ORDER BY " :: order ++ [.text ")"]
    else [.text (if args.content.isEmpty then "" else " "), .text "ORDER BY "] ++ order ++
      [.text ")"]

def call (c : Call Node) : Layout :=
  let args := if c.star then [.text "*"] else all c.args
  .text (c.name ++ "(" ++ if c.distinct then "DISTINCT " else "") :: args ++
    callOrder c.withinGroup args (all? c.aggOrder) ++
    match c.aggFilter with
    | some f => [.text " FILTER (WHERE ", .part .plain f, .text ")"]
    | none => []

def sublink? : Sublink Node → Option Layout
  | ⟨.exists, _, _, query⟩ => some (.text "EXISTS " :: parens [.part .plain query])
  | ⟨.expr, _, _, query⟩ => some (parens [.part .plain query])
  | ⟨.array, _, _, query⟩ => some (.text "ARRAY" :: parens [.part .plain query])
  | ⟨.any, op, some test, query⟩ =>
    let word := match op with
      | none => " IN "
      | some op => if op == "=" then " IN " else " " ++ op ++ " ANY "
    some ([.part .operand test, .text word] ++ parens [.part .plain query])
  | ⟨.all, op, some test, query⟩ =>
    some ([.part .operand test, .text (" " ++ op.getD "=" ++ " ALL ")] ++
      parens [.part .plain query])
  | _ => none

end Layout

open Layout

-- The layout of a node, if it lacks nothing.
def Node.layout? : Node → Option Layout
  | .select s => select? s
  | .update u => some (Layout.update u)
  | .delete d => some (Layout.delete d)
  | .insert i => some (Layout.insert i)
  | .table t => some [.text (Render.table t)]
  | .derived d => some (Layout.derived d)
  | .join j => some (Layout.join j)
  | .with w => some (.text (if w.recursive then "WITH RECURSIVE " else "WITH ") :: all w.ctes)
  | .cte c => some (Layout.cte c)
  | .target t => target? t
  | .operator o => operator? o
  | .row r => some (parens (all r.args))
  | .nullTest t =>
    some [.part .operand t.arg, .text (if t.negated then " IS NOT NULL" else " IS NULL")]
  | .call c => some (Layout.call c)
  | .sublink l => sublink? l
  | .column c => if c.fields.isEmpty then none
    else some [.text (".".intercalate (c.fields.map Render.columnField))]
  | .const c => some [.text (Render.const c)]
  | .star => some [.text "*"]
  | .sort s =>
    some [.part .plain s.node, .text (Render.sortDir s.dir ++ Render.nullsFirst s.nullsFirst)]
  | .truncated => some [.text Render.marker]
  | .other o => o.sql.map fun s => [.text s]

-- The layout of a node that is written in this manner.
def Manner.layout? : Manner → Node → Option Layout
  | .range, .row ⟨[low, high]⟩ => some [.part .operand low, .text " AND ", .part .operand high]
  | .assignment, .target ⟨some name, some val⟩ =>
    some [.text (Render.quoteIdent name ++ " = "), .part .plain val]
  | .assignment, .target _ => none
  | m, n => n.layout?.map (parensIf (m.encloses n))

@[simp]
theorem Segment.content_text (s : String) : (text s).content = s := rfl

@[simp]
theorem Segment.content_part (m : Manner) (n : Node) : (part m n).content = m.text n := rfl

variable {P : Manner → Node → Prop}

@[simp]
theorem Segment.each_text (s : String) : (text s).Each P := trivial

@[simp]
theorem Segment.each_part (m : Manner) (n : Node) : (part m n).Each P ↔ P m n := .rfl

namespace Layout

variable {l l' : Layout} {ls ls' : List Layout} {n : Node} {ns : List Node} {o : Option Node}

@[simp]
theorem content_nil : content [] = "" := rfl

@[simp]
theorem content_cons (segment : Segment) :
    content (segment :: l) = segment.content ++ content l := by
  simp [content]

@[simp]
theorem content_append : content (l ++ l') = content l ++ content l' := by
  simp [content]

@[simp]
theorem content_separated (sep : String) :
    content (separated sep ls) = sep.intercalate (ls.map content) := by
  fun_induction separated sep ls
  case case1 => rfl
  case case2 => simp
  case case3 l ls hne hi =>
    have : ls.map content ≠ [] := by simpa using hne
    simp [String.intercalate_cons_of_ne_nil this, hi, String.append_assoc]

@[simp]
theorem content_parens : content (parens l) = Render.parens (content l) := by
  simp [parens, Render.parens, String.append_assoc]

@[simp]
theorem content_parensIf (b : Bool) : content (parensIf b l) = Render.parensIf b (content l) := by
  cases b <;> simp [parensIf, Render.parensIf]

@[simp]
theorem content_all : content (all ns) = Render.joined (ns.map Manner.plain.text) := by
  simp [all, Render.joined, Function.comp_def]

@[simp]
theorem content_all? : (all? ns).map content = Render.joined? (ns.map Manner.plain.text) := by
  cases ns <;> simp [all?, Render.joined?]

@[simp]
theorem content_part? : (part? o).map content = o.map Manner.plain.text := by
  cases o <;> simp [part?]

theorem map_content_toList (o : Option Layout) :
    o.toList.map content = (o.map content).toList := by
  cases o <;> rfl

@[simp]
theorem content_clause (keyword : String) (o : Option Layout) :
    (clause keyword o).map content = Render.clause keyword (o.map content) := by
  cases o <;> simp [clause, Render.clause]

@[simp]
theorem content_selectWord (distinct : Bool) (on : Option Layout) :
    content (selectWord distinct on) = Render.selectWord distinct (on.map content) := by
  cases distinct <;> cases on <;> simp [selectWord, Render.selectWord]

@[simp]
theorem each_nil : Each P [] := by simp [Each]

@[simp]
theorem each_cons (segment : Segment) :
    Each P (segment :: l) ↔ segment.Each P ∧ Each P l := by
  simp [Each]

@[simp]
theorem each_append : Each P (l ++ l') ↔ Each P l ∧ Each P l' := by
  simp [Each, or_imp, forall_and]

@[simp]
theorem each_parens : Each P (parens l) ↔ Each P l := by
  simp [parens]

@[simp]
theorem each_parensIf (b : Bool) : Each P (parensIf b l) ↔ Each P l := by
  cases b <;> simp [parensIf]

-- The same for all of several layouts.
def EachIn (P : Manner → Node → Prop) (ls : List Layout) : Prop := ∀ l ∈ ls, Each P l

@[simp]
theorem eachIn_nil : EachIn P [] := by simp [EachIn]

@[simp]
theorem eachIn_cons : EachIn P (l :: ls) ↔ Each P l ∧ EachIn P ls := by simp [EachIn]

@[simp]
theorem eachIn_append : EachIn P (ls ++ ls') ↔ EachIn P ls ∧ EachIn P ls' := by
  simp [EachIn, or_imp, forall_and]

@[simp]
theorem eachIn_map (m : Manner) :
    EachIn P (ns.map fun n => [.part m n]) ↔ ∀ n ∈ ns, P m n := by
  simp [EachIn]

@[simp]
theorem each_separated (sep : String) : Each P (separated sep ls) ↔ EachIn P ls := by
  fun_induction separated sep ls
  case case1 => simp
  case case2 => simp
  case case3 l ls _ hi => simp [hi]

@[simp]
theorem each_all : Each P (all ns) ↔ ∀ n ∈ ns, P .plain n := by
  simp [all]

@[simp]
theorem eachIn_all? : EachIn P (all? ns).toList ↔ ∀ n ∈ ns, P .plain n := by
  cases ns <;> simp [all?]

@[simp]
theorem eachIn_part? : EachIn P (part? o).toList ↔ ∀ n ∈ o, P .plain n := by
  cases o <;> simp [part?]

@[simp]
theorem eachIn_clause (keyword : String) (o : Option Layout) :
    EachIn P (clause keyword o) ↔ EachIn P o.toList := by
  cases o <;> simp [clause]

@[simp]
theorem each_selectWord (distinct : Bool) (on : Option Layout) :
    Each P (selectWord distinct on) ↔ (distinct → EachIn P on.toList) := by
  cases distinct <;> cases on <;> simp [selectWord]

theorem body?_of_op_none {q : Select Node} (ho : q.op = .none) : body? q = some
    ([selectWord q.distinct (all? q.distinctClause)] ++ (all? q.targetList).toList ++
      clause "FROM" (all? q.fromClause) ++ clause "WHERE" (part? q.whereClause) ++
      clause "GROUP BY" (all? q.groupClause) ++ clause "HAVING" (part? q.havingClause)) := by
  simp [body?, ho]

theorem body?_of_arms {q : Select Node} (ho : q.op ≠ .none) (hl : q.larg = some n)
    (hr : q.rarg = some n') :
    body? q = some [[.part .arm n], [.text (Render.setWord q.op q.all)], [.part .arm n']] := by
  simp [body?, ho, hl, hr]

@[simp]
theorem each_insert (i : Insert Node) : Each P (insert i) ↔
    P .plain i.relation ∧ (∀ n ∈ i.cols, P .plain n) ∧ ∀ n ∈ i.selectStmt, P .plain n := by
  obtain ⟨relation, cols, source⟩ := i
  cases cols <;> cases source <;> simp [insert, all?]

@[simp]
theorem each_join (j : Join Node) : Each P (join j) ↔
    P .plain j.larg ∧ P .joined j.rarg ∧ ∀ n ∈ j.quals, P .plain n := by
  obtain ⟨kind, natural, l, r, names, quals⟩ := j
  cases quals <;> cases names <;> simp [join]

@[simp]
theorem each_call (c : Call Node) : Each P (call c) ↔
    (c.star = false → ∀ n ∈ c.args, P .plain n) ∧ (∀ n ∈ c.aggOrder, P .plain n) ∧
      ∀ n ∈ c.aggFilter, P .plain n := by
  obtain ⟨name, args, order, filter, withinGroup, star, distinct⟩ := c
  cases star <;> cases order <;> cases filter <;> cases withinGroup <;>
    simp [call, callOrder, all?]

end Layout

end SqlLens
