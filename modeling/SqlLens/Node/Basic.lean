namespace SqlLens

-- The set operation that joins the two arms of a `Select`.
inductive SetOp where
  | none
  | union
  | intersect
  | except
deriving DecidableEq

-- A query: plain, or a set operation over `larg` and `rarg`. A plain query has no arms, a set
-- operation no clauses before `sortClause`.
structure Select (α : Type) where
  op             : SetOp := .none
  all            : Bool := false
  distinct       : Bool := false
  -- The expressions of `DISTINCT ON`; they count only if `distinct` is set.
  distinctClause : List α := []
  targetList     : List α := []
  fromClause     : List α := []
  whereClause    : Option α := none
  groupClause    : List α := []
  havingClause   : Option α := none
  sortClause     : List α := []
  limitCount     : Option α := none
  limitOffset    : Option α := none
  withClause     : Option α := none
  larg           : Option α := none
  rarg           : Option α := none
deriving DecidableEq

structure Update (α : Type) where
  relation    : α
  targetList  : List α := []
  fromClause  : List α := []
  whereClause : Option α := none
deriving DecidableEq

structure Delete (α : Type) where
  relation    : α
  whereClause : Option α := none
deriving DecidableEq

-- `cols` holds one name-only `Target` for each column. No source stands for default values.
structure Insert (α : Type) where
  relation   : α
  cols       : List α := []
  selectStmt : Option α := none
deriving DecidableEq

-- A table that is referred to by name.
structure Table where
  schema    : Option String := none
  name      : String
  aliasName : Option String := none
deriving DecidableEq

-- A query that stands where a table does.
structure Derived (α : Type) where
  lateral   : Bool := false
  subquery  : α
  aliasName : Option String := none
deriving DecidableEq

inductive JoinKind where
  | inner
  | left
  | right
  | full
  | cross
  | semi
  | leftSemi
  | rightSemi
  | anti
  | leftAnti
  | rightAnti
  | straight
deriving DecidableEq

-- Either arm may itself be a join.
structure Join (α : Type) where
  kind        : JoinKind := .inner
  natural     : Bool := false
  larg        : α
  rarg        : α
  usingClause : List String := []
  quals       : Option α := none
deriving DecidableEq

structure With (α : Type) where
  recursive : Bool := false
  ctes      : List α := []
deriving DecidableEq

-- A named query in front of another one.
structure Cte (α : Type) where
  name     : String
  columns  : List String := []
  ctequery : α
deriving DecidableEq

-- An output column of a query, an assignment of an update or a column of an insert.
structure Target (α : Type) where
  name : Option String := none
  val  : Option α := none
deriving DecidableEq

inductive OperatorKind where
  | op
  | any
  | all
  | and
  | or
  | not
  | in
  | notIn
  | between
  | notBetween
deriving DecidableEq

-- An operator with its operands; the boolean connectives are of the same family. The bounds of
-- `between` are a `Row` of two.
structure Operator (α : Type) where
  kind  : OperatorKind
  name  : String := ""
  lexpr : Option α := none
  rexpr : Option α := none
deriving DecidableEq

structure Row (α : Type) where
  args : List α := []
deriving DecidableEq

structure NullTest (α : Type) where
  arg     : α
  negated : Bool
deriving DecidableEq

structure Call (α : Type) where
  name        : String := ""
  args        : List α := []
  -- The order within the argument list, or that of `WITHIN GROUP`.
  aggOrder    : List α := []
  aggFilter   : Option α := none
  withinGroup : Bool := false
  star        : Bool := false
  distinct    : Bool := false
deriving DecidableEq

inductive SublinkKind where
  | exists
  | any
  | all
  | expr
  | array
deriving DecidableEq

-- A query inside an expression.
structure Sublink (α : Type) where
  kind      : SublinkKind
  operator  : Option String := none
  testexpr  : Option α := none
  subselect : α
deriving DecidableEq

-- A dotted name. The last field is the column, the one before it the table or its alias.
structure Column where
  fields : List String := []
deriving DecidableEq

inductive Constant where
  | number (literal : String)
  | string (text : String)
  | boolean (value : Bool)
  | null
  | param (name : String)
deriving DecidableEq

inductive SortDir where
  | default
  | asc
  | desc
deriving DecidableEq

structure SortItem (α : Type) where
  node       : α
  dir        : SortDir := .default
  nullsFirst : Option Bool := none
deriving DecidableEq

-- A construct without a kind of its own; `sql` is its text, if it is known.
structure Other where
  kind : String
  sql  : Option String := none
deriving DecidableEq

inductive Node where
  | select (s : Select Node)
  | update (u : Update Node)
  | delete (d : Delete Node)
  | insert (i : Insert Node)
  | table (t : Table)
  | derived (d : Derived Node)
  | join (j : Join Node)
  | with (w : With Node)
  | cte (c : Cte Node)
  | target (t : Target Node)
  | operator (o : Operator Node)
  | row (r : Row Node)
  | nullTest (t : NullTest Node)
  | call (c : Call Node)
  | sublink (l : Sublink Node)
  | column (c : Column)
  | const (c : Constant)
  | star
  | sort (s : SortItem Node)
  -- Stands where a part of the tree was left out.
  | truncated
  | other (o : Other)

def Select.isSetOperation (s : Select α) : Bool := s.op != .none

-- The name with its schema in front.
def Table.qualifiedName (t : Table) : String :=
  match t.schema with
  | some schema => schema ++ "." ++ t.name
  | none        => t.name

def Column.column? (c : Column) : Option String := c.fields.getLast?

def Column.qualifier? (c : Column) : Option String := c.fields.dropLast.getLast?

namespace Node

-- The tag of the node's kind. Unknown constructs bring their own.
def kindName : Node → String
  | .select _   => "Select"
  | .update _   => "Update"
  | .delete _   => "DeleteFrom"
  | .insert _   => "InsertInto"
  | .table _    => "RangeVar"
  | .derived _  => "RangeSubselect"
  | .join _     => "JoinExpr"
  | .with _     => "WithClause"
  | .cte _      => "CommonTableExpr"
  | .target _   => "ResTarget"
  | .operator _ => "AExpr"
  | .row _      => "Row"
  | .nullTest _ => "NullTest"
  | .call _     => "FuncCall"
  | .sublink _  => "SubLink"
  | .column _   => "ColumnRef"
  | .const _    => "AConst"
  | .star       => "AStar"
  | .sort _     => "SortBy"
  | .truncated  => "Truncated"
  | .other o    => o.kind

end Node

end SqlLens
