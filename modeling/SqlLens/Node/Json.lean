import SqlLens.Json.Decode
import SqlLens.Node.Basic

namespace SqlLens

open Json

namespace SetOp

def names : List (String × SetOp) :=
  [("None", .none), ("Union", .union), ("Intersect", .intersect), ("Except", .except)]

def encode : SetOp → Value
  | .none      => .string "None"
  | .union     => .string "Union"
  | .intersect => .string "Intersect"
  | .except    => .string "Except"

end SetOp

namespace JoinKind

def names : List (String × JoinKind) :=
  [("Inner", .inner), ("Left", .left), ("Right", .right), ("Full", .full), ("Cross", .cross),
   ("Semi", .semi), ("LeftSemi", .leftSemi), ("RightSemi", .rightSemi), ("Anti", .anti),
   ("LeftAnti", .leftAnti), ("RightAnti", .rightAnti), ("Straight", .straight)]

def encode : JoinKind → Value
  | .inner     => .string "Inner"
  | .left      => .string "Left"
  | .right     => .string "Right"
  | .full      => .string "Full"
  | .cross     => .string "Cross"
  | .semi      => .string "Semi"
  | .leftSemi  => .string "LeftSemi"
  | .rightSemi => .string "RightSemi"
  | .anti      => .string "Anti"
  | .leftAnti  => .string "LeftAnti"
  | .rightAnti => .string "RightAnti"
  | .straight  => .string "Straight"

end JoinKind

namespace OperatorKind

def names : List (String × OperatorKind) :=
  [("Op", .op), ("Any", .any), ("All", .all), ("And", .and), ("Or", .or), ("Not", .not),
   ("In", .in), ("NotIn", .notIn), ("Between", .between), ("NotBetween", .notBetween)]

def encode : OperatorKind → Value
  | .op         => .string "Op"
  | .any        => .string "Any"
  | .all        => .string "All"
  | .and        => .string "And"
  | .or         => .string "Or"
  | .not        => .string "Not"
  | .in         => .string "In"
  | .notIn      => .string "NotIn"
  | .between    => .string "Between"
  | .notBetween => .string "NotBetween"

end OperatorKind

namespace SublinkKind

def names : List (String × SublinkKind) :=
  [("Exists", .exists), ("Any", .any), ("All", .all), ("Expr", .expr), ("Array", .array)]

def encode : SublinkKind → Value
  | .exists => .string "Exists"
  | .any    => .string "Any"
  | .all    => .string "All"
  | .expr   => .string "Expr"
  | .array  => .string "Array"

end SublinkKind

namespace SortDir

def names : List (String × SortDir) :=
  [("Default", .default), ("Asc", .asc), ("Desc", .desc)]

def encode : SortDir → Value
  | .default => .string "Default"
  | .asc     => .string "Asc"
  | .desc    => .string "Desc"

end SortDir

-- Whether a null test is negated.
def NullTest.names : List (String × Bool) := [("IsNull", false), ("IsNotNull", true)]

namespace Constant

def encode : Constant → Value
  | .number literal => .record [("Number", .string literal)]
  | .string text    => .record [("String", .string text)]
  | .boolean value  => .record [("Boolean", .bool value)]
  | .null           => .string "Null"
  | .param name     => .record [("Param", .string name)]

def tags : List String := ["Number", "String", "Boolean", "Null", "Param"]

def decode (limit : Nat) : Decoder Constant :=
  Decode.tagged limit fun t =>
    match t.tag with
    | "Number"  => return .number (← t.carrying Decode.string)
    | "String"  => return .string (← t.carrying Decode.string)
    | "Boolean" => return .boolean (← t.carrying Decode.bool)
    | "Null"    => t.plain .null
    | "Param"   => return .param (← t.carrying Decode.string)
    | tag       => .error (.unknownVariant tag tags)

end Constant

def encodeTexts (texts : List String) : Value := .list (texts.map .string)

namespace Node

mutual

def encode : Node → Value
  | .select s => .record [("Select", encodeSelect s)]
  | .update ⟨relation, targets, sources, cond⟩ =>
    .record [("Update", .record [
      ("relation", relation.encode),
      ("targetList", .list (encodeList targets)),
      ("fromClause", .list (encodeList sources)),
      ("whereClause", encodeOption cond)])]
  | .delete ⟨relation, cond⟩ =>
    .record [("DeleteFrom", .record [
      ("relation", relation.encode),
      ("whereClause", encodeOption cond)])]
  | .insert ⟨relation, cols, source⟩ =>
    .record [("InsertInto", .record [
      ("relation", relation.encode),
      ("cols", .list (encodeList cols)),
      ("selectStmt", encodeOption source)])]
  | .table t =>
    .record [("RangeVar", .record [
      ("schemaname", .option .string t.schema),
      ("relname", .string t.name),
      ("alias", .option .string t.aliasName)])]
  | .derived ⟨lateral, subquery, aliasName⟩ =>
    .record [("RangeSubselect", .record [
      ("lateral", .bool lateral),
      ("subquery", subquery.encode),
      ("alias", .option .string aliasName)])]
  | .join ⟨kind, natural, l, r, names, quals⟩ =>
    .record [("JoinExpr", .record [
      ("jointype", kind.encode),
      ("isNatural", .bool natural),
      ("larg", l.encode),
      ("rarg", r.encode),
      ("usingClause", encodeTexts names),
      ("quals", encodeOption quals)])]
  | .with ⟨recursive, ctes⟩ =>
    .record [("WithClause", .record [
      ("recursive", .bool recursive),
      ("ctes", .list (encodeList ctes))])]
  | .cte ⟨name, columns, query⟩ =>
    .record [("CommonTableExpr", .record [
      ("ctename", .string name),
      ("aliascolnames", encodeTexts columns),
      ("ctequery", query.encode)])]
  | .target ⟨name, val⟩ =>
    .record [("ResTarget", .record [
      ("name", .option .string name),
      ("val", encodeOption val)])]
  | .operator ⟨kind, name, l, r⟩ =>
    .record [("AExpr", .record [
      ("kind", kind.encode),
      ("name", .string name),
      ("lexpr", encodeOption l),
      ("rexpr", encodeOption r)])]
  | .row ⟨args⟩ => .record [("Row", .record [("args", .list (encodeList args))])]
  | .nullTest ⟨arg, negated⟩ =>
    .record [("NullTest", .record [
      ("arg", arg.encode),
      ("nulltesttype", .string (if negated then "IsNotNull" else "IsNull"))])]
  | .call ⟨name, args, order, filter, withinGroup, starred, distinct⟩ =>
    .record [("FuncCall", .record [
      ("funcname", .string name),
      ("args", .list (encodeList args)),
      ("agg_order", .list (encodeList order)),
      ("agg_filter", encodeOption filter),
      ("agg_within_group", .bool withinGroup),
      ("agg_star", .bool starred),
      ("agg_distinct", .bool distinct)])]
  | .sublink ⟨kind, op, test, query⟩ =>
    .record [("SubLink", .record [
      ("subLinkType", kind.encode),
      ("operName", .option .string op),
      ("testexpr", encodeOption test),
      ("subselect", query.encode)])]
  | .column c => .record [("ColumnRef", .record [("fields", encodeTexts c.fields)])]
  | .const c => .record [("AConst", c.encode)]
  | .star => .string "AStar"
  | .sort ⟨n, dir, nulls⟩ =>
    .record [("SortBy", .record [
      ("node", n.encode),
      ("dir", dir.encode),
      ("nulls_first", .option .bool nulls)])]
  | .truncated => .string "Truncated"
  | .other o =>
    .record [("Other", .record [
      ("kind", .string o.kind),
      ("sql", .option .string o.sql)])]

def encodeSelect : Select Node → Value
  | ⟨op, all, distinct, on, targets, sources, cond, groups, having, order, limit, offset, ctes,
      l, r⟩ =>
    .record [
      ("op", op.encode),
      ("all", .bool all),
      ("distinct", .bool distinct),
      ("distinctClause", .list (encodeList on)),
      ("targetList", .list (encodeList targets)),
      ("fromClause", .list (encodeList sources)),
      ("whereClause", encodeOption cond),
      ("groupClause", .list (encodeList groups)),
      ("havingClause", encodeOption having),
      ("sortClause", .list (encodeList order)),
      ("limitCount", encodeOption limit),
      ("limitOffset", encodeOption offset),
      ("withClause", encodeOption ctes),
      ("larg", encodeOption l),
      ("rarg", encodeOption r)]

def encodeOption : Option Node → Value
  | none   => .null
  | some n => n.encode

def encodeList : List Node → List Value
  | []      => []
  | n :: ns => n.encode :: encodeList ns

end

-- A list of statements.
def encodeAll (statements : List Node) : Value := .list (encodeList statements)

-- How the children of a record are read: one node, and a list of nodes. `limit` is the number of
-- arrays and objects that may be opened from the record on.
structure ChildDecoder where
  limit : Nat
  one   : Decoder Node
  many  : Decoder (List Node)

namespace ChildDecoder

open Decode

variable (d : ChildDecoder)

def option : Decoder (Option Node) := Decode.option d.one

-- Lists of texts below a record.
def texts : Decoder (List String) := Decode.list (d.limit - 1) Decode.string

def text? : Decoder (Option String) := Decode.option Decode.string

-- A sum type below a record.
def choice (known : List (String × α)) : Decoder α := Decode.choice (d.limit - 1) known

def select : Decoder (Select Node) :=
  record d.limit "Select" {} [
    field "op" .defaulted (d.choice SetOp.names) fun s op => { s with op },
    field "all" .defaulted bool fun s all => { s with all },
    field "distinct" .defaulted bool fun s distinct => { s with distinct },
    field "distinctClause" .defaulted d.many fun s ns => { s with distinctClause := ns },
    field "targetList" .defaulted d.many fun s ns => { s with targetList := ns },
    field "fromClause" .defaulted d.many fun s ns => { s with fromClause := ns },
    field "whereClause" .defaulted d.option fun s n => { s with whereClause := n },
    field "groupClause" .defaulted d.many fun s ns => { s with groupClause := ns },
    field "havingClause" .defaulted d.option fun s n => { s with havingClause := n },
    field "sortClause" .defaulted d.many fun s ns => { s with sortClause := ns },
    field "limitCount" .defaulted d.option fun s n => { s with limitCount := n },
    field "limitOffset" .defaulted d.option fun s n => { s with limitOffset := n },
    field "withClause" .defaulted d.option fun s n => { s with withClause := n },
    field "larg" .defaulted d.option fun s n => { s with larg := n },
    field "rarg" .defaulted d.option fun s n => { s with rarg := n }]

def update : Decoder (Update Node) :=
  record d.limit "Update" { relation := .truncated } [
    field "relation" .required d.one fun u n => { u with relation := n },
    field "targetList" .defaulted d.many fun u ns => { u with targetList := ns },
    field "fromClause" .defaulted d.many fun u ns => { u with fromClause := ns },
    field "whereClause" .optional d.option fun u n => { u with whereClause := n }]

def delete : Decoder (Delete Node) :=
  record d.limit "DeleteFrom" { relation := .truncated } [
    field "relation" .required d.one fun r n => { r with relation := n },
    field "whereClause" .optional d.option fun r n => { r with whereClause := n }]

def insert : Decoder (Insert Node) :=
  record d.limit "InsertInto" { relation := .truncated } [
    field "relation" .required d.one fun i n => { i with relation := n },
    field "cols" .defaulted d.many fun i ns => { i with cols := ns },
    field "selectStmt" .optional d.option fun i n => { i with selectStmt := n }]

def table : Decoder Table :=
  record d.limit "RangeVar" { name := "" } [
    field "schemaname" .optional text? fun t s => { t with schema := s },
    field "relname" .required string fun t s => { t with name := s },
    field "alias" .optional text? fun t s => { t with aliasName := s }]

def derived : Decoder (Derived Node) :=
  record d.limit "RangeSubselect" { subquery := .truncated } [
    field "lateral" .defaulted bool fun r b => { r with lateral := b },
    field "subquery" .required d.one fun r n => { r with subquery := n },
    field "alias" .optional text? fun r s => { r with aliasName := s }]

def join : Decoder (Join Node) :=
  record d.limit "JoinExpr" { larg := .truncated, rarg := .truncated } [
    field "jointype" .defaulted (d.choice JoinKind.names) fun j k => { j with kind := k },
    field "isNatural" .defaulted bool fun j b => { j with natural := b },
    field "larg" .required d.one fun j n => { j with larg := n },
    field "rarg" .required d.one fun j n => { j with rarg := n },
    field "usingClause" .defaulted d.texts fun j ss => { j with usingClause := ss },
    field "quals" .optional d.option fun j n => { j with quals := n }]

def withClause : Decoder (With Node) :=
  record d.limit "WithClause" {} [
    field "recursive" .defaulted bool fun w b => { w with recursive := b },
    field "ctes" .defaulted d.many fun w ns => { w with ctes := ns }]

def cte : Decoder (Cte Node) :=
  record d.limit "CommonTableExpr" { name := "", ctequery := .truncated } [
    field "ctename" .required string fun c s => { c with name := s },
    field "aliascolnames" .defaulted d.texts fun c ss => { c with columns := ss },
    field "ctequery" .required d.one fun c n => { c with ctequery := n }]

def target : Decoder (Target Node) :=
  record d.limit "ResTarget" {} [
    field "name" .defaulted text? fun t s => { t with name := s },
    field "val" .defaulted d.option fun t n => { t with val := n }]

def operator : Decoder (Operator Node) :=
  record d.limit "AExpr" { kind := .op } [
    field "kind" .required (d.choice OperatorKind.names) fun o k => { o with kind := k },
    field "name" .defaulted string fun o s => { o with name := s },
    field "lexpr" .optional d.option fun o n => { o with lexpr := n },
    field "rexpr" .optional d.option fun o n => { o with rexpr := n }]

def row : Decoder (Row Node) :=
  record d.limit "Row" {} [
    field "args" .defaulted d.many fun r ns => { r with args := ns }]

def nullTest : Decoder (NullTest Node) :=
  record d.limit "NullTest" { arg := .truncated, negated := false } [
    field "arg" .required d.one fun t n => { t with arg := n },
    field "nulltesttype" .required (d.choice NullTest.names) fun t b => { t with negated := b }]

def call : Decoder (Call Node) :=
  record d.limit "FuncCall" {} [
    field "funcname" .defaulted string fun c s => { c with name := s },
    field "args" .defaulted d.many fun c ns => { c with args := ns },
    field "agg_order" .defaulted d.many fun c ns => { c with aggOrder := ns },
    field "agg_filter" .defaulted d.option fun c n => { c with aggFilter := n },
    field "agg_within_group" .defaulted bool fun c b => { c with withinGroup := b },
    field "agg_star" .defaulted bool fun c b => { c with star := b },
    field "agg_distinct" .defaulted bool fun c b => { c with distinct := b }]

def sublink : Decoder (Sublink Node) :=
  record d.limit "SubLink" { kind := .expr, subselect := .truncated } [
    field "subLinkType" .required (d.choice SublinkKind.names) fun l k => { l with kind := k },
    field "operName" .optional text? fun l s => { l with operator := s },
    field "testexpr" .optional d.option fun l n => { l with testexpr := n },
    field "subselect" .required d.one fun l n => { l with subselect := n }]

def column : Decoder Column :=
  record d.limit "ColumnRef" {} [
    field "fields" .defaulted d.texts fun c ss => { c with fields := ss }]

def sort : Decoder (SortItem Node) :=
  record d.limit "SortBy" { node := .truncated } [
    field "node" .required d.one fun s n => { s with node := n },
    field "dir" .defaulted (d.choice SortDir.names) fun s k => { s with dir := k },
    field "nulls_first" .defaulted (Decode.option bool) fun s b => { s with nullsFirst := b }]

def other : Decoder Other :=
  record d.limit "Opaque" { kind := "" } [
    field "kind" .required string fun o s => { o with kind := s },
    field "sql" .defaulted text? fun o s => { o with sql := s }]

end ChildDecoder

def tags : List String :=
  ["Select", "Update", "DeleteFrom", "InsertInto", "RangeVar", "RangeSubselect", "JoinExpr",
   "WithClause", "CommonTableExpr", "ResTarget", "AExpr", "Row", "NullTest", "FuncCall",
   "SubLink", "ColumnRef", "AConst", "AStar", "SortBy", "Truncated", "Other"]

-- A node, given how its children are read.
def decodeWith (limit : Nat) (d : ChildDecoder) : Decoder Node :=
  Decode.tagged limit fun t =>
    match t.tag with
    | "Select" => return .select (← t.carrying d.select)
    | "Update" => return .update (← t.carrying d.update)
    | "DeleteFrom" => return .delete (← t.carrying d.delete)
    | "InsertInto" => return .insert (← t.carrying d.insert)
    | "RangeVar" => return .table (← t.carrying d.table)
    | "RangeSubselect" => return .derived (← t.carrying d.derived)
    | "JoinExpr" => return .join (← t.carrying d.join)
    | "WithClause" => return .with (← t.carrying d.withClause)
    | "CommonTableExpr" => return .cte (← t.carrying d.cte)
    | "ResTarget" => return .target (← t.carrying d.target)
    | "AExpr" => return .operator (← t.carrying d.operator)
    | "Row" => return .row (← t.carrying d.row)
    | "NullTest" => return .nullTest (← t.carrying d.nullTest)
    | "FuncCall" => return .call (← t.carrying d.call)
    | "SubLink" => return .sublink (← t.carrying d.sublink)
    | "ColumnRef" => return .column (← t.carrying d.column)
    | "AConst" => return .const (← t.carrying (Constant.decode d.limit))
    | "AStar" => t.plain .star
    | "SortBy" => return .sort (← t.carrying d.sort)
    | "Truncated" => t.plain .truncated
    | "Other" => return .other (← t.carrying d.other)
    | tag => .error (.unknownVariant tag tags)

def tooDeep : Decoder α := fun _ => .error .tooDeep

-- A node may open one object for its kind and one for its record; its children come below both,
-- and lists of children below one array more.
def decode : Nat → Decoder Node
  | n + 3 => decodeWith (n + 3) ⟨n + 2, decode (n + 1), Decode.list (n + 1) (decode n)⟩
  | limit => decodeWith limit ⟨limit - 1, tooDeep, tooDeep⟩

-- Texts may open fewer than 128 arrays and objects at a time.
def depthLimit : Nat := 128

def decodeAll (limit : Nat) : Decoder (List Node) := Decode.list limit (decode (limit - 1))

-- A list of statements from its JSON text.
def ofJson (text : String) : Except Fault (List Node) :=
  (Json.read text).decode (decodeAll depthLimit)

end Node

end SqlLens
