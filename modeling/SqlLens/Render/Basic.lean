import SqlLens.Error
import SqlLens.Node.Basic
import SqlLens.Render.Quote

namespace SqlLens

def SetOp.keyword : SetOp → String
  | .none      => "NONE"
  | .union     => "UNION"
  | .intersect => "INTERSECT"
  | .except    => "EXCEPT"

def JoinKind.keyword : JoinKind → String
  | .inner     => "JOIN"
  | .left      => "LEFT JOIN"
  | .right     => "RIGHT JOIN"
  | .full      => "FULL JOIN"
  | .cross     => "CROSS JOIN"
  | .semi      => "SEMI JOIN"
  | .leftSemi  => "LEFT SEMI JOIN"
  | .rightSemi => "RIGHT SEMI JOIN"
  | .anti      => "ANTI JOIN"
  | .leftAnti  => "LEFT ANTI JOIN"
  | .rightAnti => "RIGHT ANTI JOIN"
  | .straight  => "STRAIGHT_JOIN"

def OperatorKind.name : OperatorKind → String
  | .op         => "Op"
  | .any        => "Any"
  | .all        => "All"
  | .and        => "And"
  | .or         => "Or"
  | .not        => "Not"
  | .in         => "In"
  | .notIn      => "NotIn"
  | .between    => "Between"
  | .notBetween => "NotBetween"

def SublinkKind.name : SublinkKind → String
  | .exists => "Exists"
  | .any    => "Any"
  | .all    => "All"
  | .expr   => "Expr"
  | .array  => "Array"

namespace Render

abbrev Rendered := Except RenderFault String

-- What a left out part is written as.
def marker : String := "..."

def parens (s : String) : String := "(" ++ s ++ ")"

-- Operators below another operator are enclosed.
def needsParensAsOperand : Node → Bool
  | .operator _ => true
  | _ => false

-- Below a connective only the other connective is enclosed, below `NOT` both of them.
def needsParensBelow (parent : OperatorKind) : Node → Bool
  | .operator child =>
    match parent with
    | .and => child.kind == .or
    | .or  => child.kind == .and
    | _    => child.kind == .and || child.kind == .or
  | _ => false

-- An arm of a set operation is enclosed if it has clauses that would go to the whole otherwise.
def needsParensAsArm : Node → Bool
  | .select s =>
    s.isSetOperation || s.withClause.isSome || !s.sortClause.isEmpty ||
    s.limitCount.isSome || s.limitOffset.isSome
  | _ => false

def isJoin : Node → Bool
  | .join _ => true
  | _ => false

def isRow : Node → Bool
  | .row _ => true
  | _ => false

def parensIf (b : Bool) (s : String) : String := if b then parens s else s

-- The other name of a table or query, behind a blank.
def aliasText : Option String → String
  | some aliasName => " " ++ quoteIdent aliasName
  | none => ""

def table (t : Table) : String :=
  (match t.schema with
    | some schema => quoteIdent schema ++ "."
    | none => "") ++
  quoteIdent t.name ++ aliasText t.aliasName

def const : Constant → String
  | .number literal => literal
  | .string text    => quoteString text
  | .boolean true   => "true"
  | .boolean false  => "false"
  | .null           => "NULL"
  | .param name     => name

def columnField (field : String) : String :=
  if field == "*" then "*" else quoteIdent field

def column (c : Column) : Rendered :=
  if c.fields.isEmpty then .error .emptyColumn
  else .ok (".".intercalate (c.fields.map columnField))

def sortDir : SortDir → String
  | .asc     => " ASC"
  | .desc    => " DESC"
  | .default => ""

def nullsFirst : Option Bool → String
  | some true  => " NULLS FIRST"
  | some false => " NULLS LAST"
  | none       => ""

def joined (pieces : List String) : String := ", ".intercalate pieces

-- An empty list has no text.
def joined? : List String → Option String
  | []     => none
  | pieces => some (joined pieces)

def selectWord (distinct : Bool) : Option String → String
  | none => if distinct then "SELECT DISTINCT" else "SELECT"
  | some on => if distinct then "SELECT DISTINCT ON " ++ parens on else "SELECT"

def setWord (op : SetOp) (all : Bool) : String :=
  if all then op.keyword ++ " ALL" else op.keyword

-- A clause with its keyword, if the clause is there.
def clause (keyword : String) : Option String → List String
  | some s => [keyword ++ " " ++ s]
  | none   => []

-- A part that must be there.
def require (fault : RenderFault) : Option String → Rendered
  | some s => .ok s
  | none   => .error fault

-- A child that must be there, before anything is written.
def check (fault : RenderFault) : Option Node → Except RenderFault Unit
  | some _ => .ok ()
  | none   => .error fault

def missing (kind : OperatorKind) (side : String) : RenderFault := .noOperand kind.name side

-- The parts of a call around its rendered arguments, order and filter.
def callText (name : String) (distinct withinGroup : Bool) (args : String) (order : Option String)
    (filter : Option String) : String :=
  name ++ "(" ++ (if distinct then "DISTINCT " else "") ++ args ++
  (match order with
    | none => ")"
    | some order =>
      if withinGroup then ") WITHIN GROUP (ORDER BY " ++ order ++ ")"
      else (if args.isEmpty then "" else " ") ++ "ORDER BY " ++ order ++ ")") ++
  (match filter with
    | some f => " FILTER (WHERE " ++ f ++ ")"
    | none => "")

mutual

-- The text of one node.
def node : Node → Rendered
  | .select s => select s
  | .update ⟨relation, targets, sources, cond⟩ => do
    let relation ← node relation
    let targets ← assignments targets
    let sources ← list sources
    let cond ← option cond
    return " ".intercalate
      (["UPDATE", relation, "SET", ", ".intercalate targets] ++
        clause "FROM" (joined? sources) ++ clause "WHERE" cond)
  | .delete ⟨relation, cond⟩ => do
    let relation ← node relation
    let cond ← option cond
    return " ".intercalate (["DELETE FROM " ++ relation] ++ clause "WHERE" cond)
  | .insert ⟨relation, cols, source⟩ => do
    let relation ← node relation
    let cols ← list cols
    let source ← option source
    return "INSERT INTO " ++ relation ++
      (if cols.isEmpty then "" else " " ++ parens (joined cols)) ++ " " ++
      source.getD "DEFAULT VALUES"
  | .table t => .ok (table t)
  | .derived ⟨lateral, subquery, aliasName⟩ => do
    let subquery ← node subquery
    return (if lateral then "LATERAL " else "") ++ parens subquery ++ aliasText aliasName
  | .join ⟨kind, natural, l, r, names, quals⟩ => do
    let right ← node r
    let left ← node l
    let quals ← option quals
    return left ++ " " ++ (if natural then "NATURAL " else "") ++ kind.keyword ++ " " ++
      parensIf (isJoin r) right ++
      (match quals with
        | some quals => " ON " ++ quals
        | none => if names.isEmpty then "" else " USING " ++ parens (quoteIdents names))
  | .with ⟨recursive, ctes⟩ => do
    let ctes ← list ctes
    return (if recursive then "WITH RECURSIVE " else "WITH ") ++ joined ctes
  | .cte ⟨name, columns, query⟩ => do
    let query ← node query
    return quoteIdent name ++ (if columns.isEmpty then "" else parens (quoteIdents columns)) ++
      " AS " ++ parens query
  | .target ⟨name, val⟩ => do
    match ← option val, name with
    | some val, some name => return val ++ " AS " ++ quoteIdent name
    | some val, none => return val
    | none, some name => return quoteIdent name
    | none, none => .error .emptyTarget
  | .operator o => operator o
  | .row ⟨args⟩ => return parens (joined (← list args))
  | .nullTest ⟨arg, negated⟩ => do
    let text ← node arg
    return parensIf (needsParensAsOperand arg) text ++
      (if negated then " IS NOT NULL" else " IS NULL")
  | .call ⟨name, args, order, filter, withinGroup, star, distinct⟩ => do
    let args ← if star then .ok "*" else joined <$> list args
    let order ← list order
    let filter ← option filter
    return callText name distinct withinGroup args (joined? order) filter
  | .sublink ⟨kind, name, test, query⟩ => do
    let query ← node query
    match kind with
    | .exists => return "EXISTS " ++ parens query
    | .expr => return parens query
    | .array => return "ARRAY" ++ parens query
    | .any =>
      let test ← require (.noTest kind.name) (← enclosed test)
      match name with
      | none => return test ++ " IN " ++ parens query
      | some op =>
        if op == "=" then return test ++ " IN " ++ parens query
        else return test ++ " " ++ op ++ " ANY " ++ parens query
    | .all =>
      let test ← require (.noTest kind.name) (← enclosed test)
      return test ++ " " ++ name.getD "=" ++ " ALL " ++ parens query
  | .column c => column c
  | .const c => .ok (const c)
  | .star => .ok "*"
  | .sort ⟨n, dir, nulls⟩ => return (← node n) ++ sortDir dir ++ nullsFirst nulls
  | .truncated => .ok marker
  | .other ⟨kind, sql⟩ => require (.noText kind) sql

def select : Select Node → Rendered
  | ⟨op, all, distinct, on, targets, sources, cond, groups, having, order, limit, offset, ctes,
      l, r⟩ => do
    let ctes ← option ctes
    let body ← if op != .none then do
        check (.noArm op.keyword "left") l
        check (.noArm op.keyword "right") r
        let left ← arm l
        let right ← arm r
        .ok (left.toList ++ [setWord op all] ++ right.toList)
      else do
        let on ← if distinct then list on else .ok []
        let targets ← list targets
        let sources ← list sources
        let cond ← option cond
        let groups ← list groups
        let having ← option having
        .ok ([selectWord distinct (joined? on)] ++ (joined? targets).toList ++
          clause "FROM" (joined? sources) ++ clause "WHERE" cond ++
          clause "GROUP BY" (joined? groups) ++ clause "HAVING" having)
    let order ← list order
    let limit ← option limit
    let offset ← option offset
    return " ".intercalate (ctes.toList ++ body ++ clause "ORDER BY" (joined? order) ++
      clause "LIMIT" limit ++ clause "OFFSET" offset)

def operator : Operator Node → Rendered
  | ⟨.op, name, l, r⟩ => do
    match ← enclosed l, ← enclosed r with
    | some l, some r => return l ++ " " ++ name ++ " " ++ r
    | none, some r => return name ++ " " ++ r
    | some l, none => return l ++ " " ++ name
    | none, none => .error (.noOperands name)
  | ⟨.any, name, l, r⟩ => do
    let l ← require (missing .any "left") (← enclosed l)
    let r ← require (missing .any "right") (← option r)
    return l ++ " " ++ name ++ " ANY" ++ parens r
  | ⟨.all, name, l, r⟩ => do
    let l ← require (missing .all "left") (← enclosed l)
    let r ← require (missing .all "right") (← option r)
    return l ++ " " ++ name ++ " ALL" ++ parens r
  | ⟨.and, _, l, r⟩ => do
    let l ← require (missing .and "left") (← connected .and l)
    let r ← require (missing .and "right") (← connected .and r)
    return l ++ " AND " ++ r
  | ⟨.or, _, l, r⟩ => do
    let l ← require (missing .or "left") (← connected .or l)
    let r ← require (missing .or "right") (← connected .or r)
    return l ++ " OR " ++ r
  | ⟨.not, _, _, r⟩ => do
    let r ← require (missing .not "right") (← connected .not r)
    return "NOT " ++ r
  | ⟨.in, _, l, r⟩ => do
    let r ← require (missing .in "right") (← listed r)
    let l ← require (missing .in "left") (← enclosed l)
    return l ++ " IN " ++ r
  | ⟨.notIn, _, l, r⟩ => do
    let r ← require (missing .notIn "right") (← listed r)
    let l ← require (missing .notIn "left") (← enclosed l)
    return l ++ " NOT IN " ++ r
  | ⟨.between, _, l, r⟩ => do
    let r ← require (missing .between "right") (← bounds r)
    let l ← require (missing .between "left") (← enclosed l)
    return l ++ " BETWEEN " ++ r
  | ⟨.notBetween, _, l, r⟩ => do
    let r ← require (missing .notBetween "right") (← bounds r)
    let l ← require (missing .notBetween "left") (← enclosed l)
    return l ++ " NOT BETWEEN " ++ r

def option : Option Node → Except RenderFault (Option String)
  | none => .ok none
  | some n => return some (← node n)

-- An arm of a set operation.
def arm : Option Node → Except RenderFault (Option String)
  | none => .ok none
  | some n => return some (parensIf (needsParensAsArm n) (← node n))

-- An operand of an operator other than a connective.
def enclosed : Option Node → Except RenderFault (Option String)
  | none => .ok none
  | some n => return some (parensIf (needsParensAsOperand n) (← node n))

-- An operand of a connective.
def connected (parent : OperatorKind) : Option Node → Except RenderFault (Option String)
  | none => .ok none
  | some n => return some (parensIf (needsParensBelow parent n) (← node n))

-- The list that a value is looked for in.
def listed : Option Node → Except RenderFault (Option String)
  | none => .ok none
  | some n => return some (parensIf (!isRow n) (← node n))

-- The two bounds of a range.
def bounds : Option Node → Except RenderFault (Option String)
  | none => .ok none
  | some (.row ⟨[low, high]⟩) => do
    let l ← node low
    let h ← node high
    return some (parensIf (needsParensAsOperand low) l ++ " AND " ++
      parensIf (needsParensAsOperand high) h)
  | some n => return some (← node n)

def list : List Node → Except RenderFault (List String)
  | [] => .ok []
  | n :: ns => do
    let s ← node n
    let rest ← list ns
    return s :: rest

-- The assignments of an update.
def assignments : List Node → Except RenderFault (List String)
  | [] => .ok []
  | .target ⟨some name, some val⟩ :: ns => do
    let s ← node val
    let rest ← assignments ns
    return (quoteIdent name ++ " = " ++ s) :: rest
  | .target _ :: _ => .error .incompleteAssignment
  | n :: ns => do
    let s ← node n
    let rest ← assignments ns
    return s :: rest

end

end Render

-- The text of a list of statements, one behind the other.
def render (statements : List Node) : Except RenderFault String :=
  return "; ".intercalate (← Render.list statements)

-- A way to give a list of statements a text.
abbrev Renderer := List Node → Except Error String

-- The renderer of this library.
def Renderer.sql : Renderer := fun statements => (render statements).mapError .render

end SqlLens
