import SqlLens.Node.Basic
import SqlLens.Sql.Text
import SqlLens.Text.Casing

namespace SqlLens.Sql

-- A name as a server sees it: without quotes its letters are lower case.
def Ident.folded (id : Ident) : String :=
  match id.quote with
  | none => SqlLens.Text.lower id.text
  | some _ => id.text

-- What the tree has no kind for keeps its canonical text.
def opaqueNode (kind text : String) : Node := .other ⟨kind, some text⟩

def columnNode (ids : Name) : Node := .column ⟨ids.map Ident.folded⟩

-- A table by a name of one or two parts.
def tableOfName? : Name → Option Table
  | [name] => some { name := name.folded }
  | [schema, name] => some { schema := some schema.folded, name := name.folded }
  | _ => none

def Literal.toNode : Literal → Node
  | .number digits _ => .const (.number digits)
  | .string text => .const (.string text)
  | .boolean value => .const (.boolean value)
  | .null => .const .null
  | .placeholder text => .const (.param text)
  | .other text => opaqueNode "Value" text

def operatorNode (op : String) (l r : Node) : Node :=
  match op with
  | "AND" => .operator { kind := .and, lexpr := some l, rexpr := some r }
  | "OR"  => .operator { kind := .or, lexpr := some l, rexpr := some r }
  | op    => .operator { kind := .op, name := op, lexpr := some l, rexpr := some r }

def notNode (n : Node) : Node := .operator { kind := .not, rexpr := some n }

def negateNode (negated : Bool) (n : Node) : Node := if negated then notNode n else n

def JoinOperator.kind? : JoinOperator → Option JoinKind
  | .join | .inner => some .inner
  | .left | .leftOuter => some .left
  | .right | .rightOuter => some .right
  | .full => some .full
  | .cross => some .cross
  | .semi => some .semi
  | .leftSemi => some .leftSemi
  | .rightSemi => some .rightSemi
  | .anti => some .anti
  | .leftAnti => some .leftAnti
  | .rightAnti => some .rightAnti
  | .straight => some .straight
  | .crossApply | .outerApply => none

-- The columns of a join, if each is named by one word.
def usingColumns? (names : List Name) : Option (List String) :=
  names.mapM fun
    | [id] => some id.folded
    | _ => none

-- The columns by which a join is constrained, if the tree has a place for the constraint.
def JoinConstraint.columns? : JoinConstraint → Option (List String)
  | .columns names => usingColumns? names
  | .none | .natural | .on _ => some []

-- Whether the tree has a kind for every join of a chain.
def Source.joinsFit : Source → Bool
  | .join l global operator _ constraint =>
    !global && operator.kind?.isSome && constraint.columns?.isSome && l.joinsFit
  | .asof .. => false
  | _ => true

def Alias.plain : Option Alias → Bool
  | some a => a.columns.isEmpty
  | none => true

def aliasName (a : Option Alias) : Option String := a.map fun a => a.name.folded

def Quantifier.byName? : Quantifier → Bool
  | .byName | .allByName | .distinctByName => true
  | _ => false

def SetOperator.toSetOp : SetOperator → SetOp
  | .union => .union
  | .intersect => .intersect
  | .except | .minus => .except

-- Whether a call with a list of arguments has only parts that the tree has a place for.
def Function.fits (f : Function) (l : ArgumentList) : Bool :=
  !f.odbc && f.params.isEmpty && l.distinct != some false && l.before.isEmpty &&
  l.after.isEmpty && f.tail.isEmpty && (l.order.isEmpty || f.within.isEmpty)

def Distinct.isPresent : Distinct → Bool
  | .none => false
  | .plain | .on _ => true

def Limits.fits : Limits → Bool
  | .plain _ _ word by_ => word == .none && by_.isEmpty
  | .comma .. => true

def Select.fits (s : Select) : Bool :=
  s.fromFirst.isNone && s.lead.isEmpty && s.top.isEmpty && s.afterItems.isEmpty &&
  s.afterFrom.isEmpty && !s.groupAll && s.modifiers.isEmpty && s.afterGroup.isEmpty &&
  s.tail.isEmpty

def Query.fits (q : Query) : Bool :=
  q.interpolate.isEmpty && q.limits.fits && q.rest.isEmpty

def Cte.fits (c : Cte) : Bool :=
  c.columns.all (·.type.isNone) && c.from_.isNone && c.materialized.isNone

-- The clauses around the body of a query.
structure Attached where
  withClause  : Option Node
  sortClause  : List Node
  limitCount  : Option Node
  limitOffset : Option Node

def Attached.hasLimit (a : Attached) : Bool := a.limitCount.isSome || a.limitOffset.isSome

-- Puts the clauses around a body onto the body's own node, unless it has such clauses already.
def Attached.onto? (a : Attached) (s : SqlLens.Select Node) : Option (SqlLens.Select Node) :=
  if a.withClause.isSome && s.withClause.isSome || !a.sortClause.isEmpty && !s.sortClause.isEmpty ||
      a.hasLimit && (s.limitCount.isSome || s.limitOffset.isSome) then
    none
  else some { s with
    withClause := a.withClause.or s.withClause
    sortClause := if a.sortClause.isEmpty then s.sortClause else a.sortClause
    limitCount := if a.hasLimit then a.limitCount else s.limitCount
    limitOffset := if a.hasLimit then a.limitOffset else s.limitOffset }

-- The node of a query whose body has the node `n`; `text` is the canonical text of the query.
def Attached.queryNode (a : Attached) (n : Node) (text : String) : Node :=
  match n with
  | .select s =>
    match a.onto? s with
    | some s => .select s
    | none => opaqueNode "Query" text
  | _ => opaqueNode "Query" text

mutual

def Expr.toNode : Expr → Node
  | .ident id => columnNode [id]
  | .compound first rest => columnNode (first :: rest)
  | .binary l op r => operatorNode op l.toNode r.toNode
  | .unary op e =>
    if op == "NOT" then notNode e.toNode
    else .operator { kind := .op, name := op, rexpr := some e.toNode }
  | .nested e => e.toNode
  | .isNull e negated => .nullTest ⟨e.toNode, negated⟩
  | .inList e items negated =>
    .operator ⟨if negated then .notIn else .in, "=", some e.toNode, some (.row ⟨exprNodes items⟩)⟩
  | .inQuery e q negated =>
    negateNode negated (.sublink ⟨.any, none, some e.toNode, q.toNode⟩)
  | .between e negated low high =>
    .operator ⟨if negated then .notBetween else .between, "BETWEEN", some e.toNode,
      some (.row ⟨[low.toNode, high.toNode]⟩)⟩
  | .like caseless negated any e pattern escape =>
    if any || escape.isSome then
      opaqueNode "Expr" (Expr.like caseless negated any e pattern escape).toText
    else
      let name := (if negated then "NOT " else "") ++ (if caseless then "ILIKE" else "LIKE")
      .operator ⟨.op, name, some e.toNode, some pattern.toNode⟩
  | .exists q negated => negateNode negated (.sublink ⟨.exists, none, none, q.toNode⟩)
  | .subquery q => .sublink ⟨.expr, none, none, q.toNode⟩
  | .compareAny l op (.subquery q) _ => .sublink ⟨.any, some op, some l.toNode, q.toNode⟩
  | .compareAny l op r _ => .operator ⟨.any, op, some l.toNode, some r.toNode⟩
  | .compareAll l op (.subquery q) => .sublink ⟨.all, some op, some l.toNode, q.toNode⟩
  | .compareAll l op r => .operator ⟨.all, op, some l.toNode, some r.toNode⟩
  | .tuple items => .row ⟨exprNodes items⟩
  | .literal l => l.toNode
  | .call f => f.toNode
  | .access root links => opaqueNode "Expr" (Expr.access root links).toText
  | .phrase pieces => opaqueNode "Expr" (phraseText pieces)

def exprNodes : List Expr → List Node
  | [] => []
  | e :: es => e.toNode :: exprNodes es

def exprNode? : Option Expr → Option Node
  | none => none
  | some e => some e.toNode

def Function.toNode : Function → Node
  | ⟨name, odbc, params, .list ⟨distinct, args, before, order, after⟩, within, filter, tail⟩ =>
    let l : ArgumentList := ⟨distinct, args, before, order, after⟩
    let f : Function := ⟨name, odbc, params, .list l, within, filter, tail⟩
    if f.fits l then
      .call {
        name := nameText name
        args := argumentNodes args
        aggOrder := orderNodes order ++ orderNodes within
        aggFilter := exprNode? filter
        withinGroup := !within.isEmpty
        star := args.any Item.isStar
        distinct := distinct == some true }
    else opaqueNode "Function" f.toText
  | f => opaqueNode "Function" f.toText

def argumentNodes : List Item → List Node
  | [] => []
  | .star _ :: is => argumentNodes is
  | .expr e :: is => e.toNode :: argumentNodes is
  | .aliased e as_ :: is =>
    opaqueNode "FunctionArg" (Item.aliased e as_).toText :: argumentNodes is
  | .phrase pieces :: is => opaqueNode "FunctionArg" (phraseText pieces) :: argumentNodes is

def OrderItem.toNode : OrderItem → Node
  | ⟨e, asc, nullsFirst, fill⟩ =>
    if fill.isEmpty then
      let dir := match asc with
        | some true => .asc
        | some false => .desc
        | none => .default
      .sort ⟨e.toNode, dir, nullsFirst⟩
    else opaqueNode "OrderByExpr" (OrderItem.mk e asc nullsFirst fill).toText

def orderNodes : List OrderItem → List Node
  | [] => []
  | i :: is => i.toNode :: orderNodes is

def OrderBy.toNodes : OrderBy → List Node
  | .items is => orderNodes is
  | .all pieces => [opaqueNode "OrderBy" (phraseText pieces)]

def Limits.count? : Limits → Option Node
  | .plain limit _ _ _ => exprNode? limit
  | .comma _ limit => some limit.toNode

def Limits.offset? : Limits → Option Node
  | .plain _ offset _ _ => exprNode? offset
  | .comma offset _ => some offset.toNode

def Query.toNode : Query → Node
  | ⟨recursive, ctes, body, order, interpolate, limits, rest⟩ =>
    let q : Query := ⟨recursive, ctes, body, order, interpolate, limits, rest⟩
    if q.fits then
      let attached : Attached := {
        withClause := if ctes.isEmpty then none else some (.with ⟨recursive, cteNodes ctes⟩)
        sortClause := order.toNodes
        limitCount := limits.count?
        limitOffset := limits.offset? }
      attached.queryNode body.toNode q.toText
    else opaqueNode "Query" q.toText

def Cte.toNode : Cte → Node
  | ⟨name, columns, materialized, query, from_⟩ =>
    let c : Cte := ⟨name, columns, materialized, query, from_⟩
    if c.fits then
      .cte ⟨name.folded, columns.map fun c => c.name.folded, query.toNode⟩
    else opaqueNode "Cte" c.toText

def cteNodes : List Cte → List Node
  | [] => []
  | c :: cs => c.toNode :: cteNodes cs

def Body.toNode : Body → Node
  | .select s => s.toNode
  | .query q => q.toNode
  | .setOperation op quantifier l r =>
    if quantifier.byName? then
      opaqueNode "SetExpr" (Body.setOperation op quantifier l r).toText
    else
      .select { op := op.toSetOp, all := quantifier == .all, larg := some l.toNode,
                rarg := some r.toNode }
  | .phrase pieces => opaqueNode "SetExpr" (phraseText pieces)

def Distinct.toNodes : Distinct → List Node
  | .none | .plain => []
  | .on es => exprNodes es

def Select.toNode : Select → Node
  | ⟨fromFirst, lead, distinct, top, items, afterItems, from_, afterFrom, cond, groupAll,
      groups, modifiers, afterGroup, having, tail⟩ =>
    let s : Select := ⟨fromFirst, lead, distinct, top, items, afterItems, from_, afterFrom,
      cond, groupAll, groups, modifiers, afterGroup, having, tail⟩
    if s.fits then
      .select {
        distinct := distinct.isPresent
        distinctClause := distinct.toNodes
        targetList := itemNodes items
        fromClause := sourceNodes from_
        whereClause := exprNode? cond
        groupClause := exprNodes groups
        havingClause := exprNode? having }
    else opaqueNode "Select" s.toText

def Item.toNode : Item → Node
  | .expr e => .target { val := some e.toNode }
  | .aliased e as_ => .target { name := some as_.folded, val := some e.toNode }
  | .star _ => .target { val := some (.column ⟨["*"]⟩) }
  | .phrase pieces => .target { val := some (opaqueNode "SelectItem" (phraseText pieces)) }

def itemNodes : List Item → List Node
  | [] => []
  | i :: is => i.toNode :: itemNodes is

def Source.toNode : Source → Node
  | .table name middle as_ after =>
    let text := (Source.table name middle as_ after).toText
    if middle.isEmpty && after.isEmpty && Alias.plain as_ then
      match tableOfName? name with
      | some t => .table { t with aliasName := aliasName as_ }
      | none => opaqueNode "TableFactor" text
    else opaqueNode "TableFactor" text
  | .derived lateral q as_ =>
    if Alias.plain as_ then .derived ⟨lateral, q.toNode, aliasName as_⟩
    else opaqueNode "TableFactor" (Source.derived lateral q as_).toText
  | .nested s none => s.toNode
  | .nested s (some as_) => opaqueNode "TableFactor" (Source.nested s (some as_)).toText
  | .join l global operator r constraint =>
    let s := Source.join l global operator r constraint
    match operator.kind?, constraint.columns?, s.joinsFit with
    | some kind, some columns, true =>
      .join ⟨kind, constraint.isNatural, l.toNode, r.toNode, columns, constraint.quals?⟩
    | _, _, _ => opaqueNode "TableFactor" s.toText
  | .asof l global r matching constraint =>
    opaqueNode "TableFactor" (Source.asof l global r matching constraint).toText
  | .phrase pieces => opaqueNode "TableFactor" (phraseText pieces)

def JoinConstraint.quals? : JoinConstraint → Option Node
  | .on e => some e.toNode
  | .none | .natural | .columns _ => none

def sourceNodes : List Source → List Node
  | [] => []
  | s :: ss => s.toNode :: sourceNodes ss

end

-- Whether an insertion has only parts that the tree has a place for.
def Insert.fits (i : Insert) : Bool :=
  i.plain && i.target.isEmpty && i.as_.isNone && i.middle.isEmpty && i.values.isEmpty &&
  i.tail.isEmpty

def Insert.toNode (i : Insert) : Node :=
  match i.fits, tableOfName? i.table with
  | true, some t =>
    .insert {
      relation := .table t
      cols := i.columns.map fun id => .target { name := some id.folded }
      selectStmt := i.source.map Query.toNode }
  | _, _ => opaqueNode "Insert" (phraseText i.pieces)

def Assignment.toNode? (a : Assignment) : Option Node :=
  match a.target with
  | .name [id] => some (.target { name := some id.folded, val := some a.value.toNode })
  | _ => none

def Update.toNode (u : Update) : Node :=
  let fits := !u.table.isJoin && u.conflict.isNone && u.fromBefore.isEmpty && u.tail.isEmpty
  match fits, u.assignments.mapM Assignment.toNode? with
  | true, some targets =>
    .update {
      relation := u.table.toNode
      targetList := targets
      fromClause := sourceNodes u.fromAfter
      whereClause := exprNode? u.cond }
  | _, _ => opaqueNode "Update" (phraseText u.pieces)

def Delete.toNode (d : Delete) : Node :=
  let fits := d.tables.isEmpty && d.using_.isEmpty && d.tail.isEmpty
  match d.from_ with
  | [table] =>
    if fits && !table.isJoin then
      .delete { relation := table.toNode, whereClause := exprNode? d.cond }
    else opaqueNode "Delete" (phraseText d.pieces)
  | _ => opaqueNode "Delete" (phraseText d.pieces)

def Statement.toNode : Statement → Node
  | .query q => q.toNode
  | .insert i => i.toNode
  | .update u => u.toNode
  | .delete d => d.toNode
  | .phrase pieces => opaqueNode "Statement" (phraseText pieces)

end SqlLens.Sql
