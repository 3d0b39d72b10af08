import SqlLens.Alias

namespace SqlLens

-- A column with the table it is qualified by, if any.
structure FilterColumn where
  table  : Option String
  column : String
deriving DecidableEq, Repr

def FilterColumn.name (c : FilterColumn) : String :=
  match c.table with
  | some table => table ++ "." ++ c.column
  | none       => c.column

-- The column that a reference means, its qualifier looked up among the aliases.
def Column.resolve? (aliases : AliasMap) (c : Column) : Option FilterColumn :=
  c.column?.map fun column =>
    ⟨c.qualifier?.map fun q => (aliases.resolve? q).getD q, column⟩

namespace Filter

-- Statements and conditions that wait to be looked at.
structure Pending where
  statements : List Node := []
  conditions : List Node := []

-- A join's own condition comes first, then the joins in its arms, level by level.
def joinConditions : Nat → List Node → List Node
  | _, [] | 0, _ => []
  | k + 1, .join j :: rest => j.quals.toList ++ joinConditions k (rest ++ [j.larg, j.rarg])
  | k + 1, _ :: rest => joinConditions k rest

-- The conditions of all joins of one FROM item.
def itemConditions (item : Node) : List Node := joinConditions item.size [item]

-- The sub-select that a FROM item is.
def derivedQuery? : Node → Option Node
  | .derived d => some d.subquery
  | _ => none

def cteQuery? : Node → Option Node
  | .cte c => some c.ctequery
  | _ => none

-- The named queries in front of a query.
def cteQueries : Option Node → List Node
  | some (.with w) => w.ctes.filterMap cteQuery?
  | _ => []

-- What a statement brings.
def ofStatement : Node → Pending
  | .select s =>
    if s.isSetOperation then { statements := s.larg.toList ++ s.rarg.toList }
    else {
      statements := s.fromClause.filterMap derivedQuery? ++ cteQueries s.withClause
      conditions := s.fromClause.flatMap itemConditions ++ s.whereClause.toList }
  | .update u => { conditions := u.whereClause.toList }
  | .delete d => { conditions := d.whereClause.toList }
  | _ => {}

-- What a condition brings.
def ofCondition : Node → Pending
  | .operator o => { conditions := o.lexpr.toList ++ o.rexpr.toList }
  | .row r => { conditions := r.args }
  | .nullTest t => { conditions := [t.arg] }
  | .call c => { conditions := c.args }
  | .sublink l => { statements := [l.subselect], conditions := l.testexpr.toList }
  | _ => {}

def ofNode? (aliases : AliasMap) : Node → Option FilterColumn
  | .column c => c.resolve? aliases
  | _ => none

-- Columns already seen keep their place.
def add (columns : List FilterColumn) : Option FilterColumn → List FilterColumn
  | none => columns
  | some c => if columns.contains c then columns else columns ++ [c]

def Pending.append (p q : Pending) : Pending :=
  ⟨p.statements ++ q.statements, p.conditions ++ q.conditions⟩

-- Looks at the first statement in the queue.
def stepStatement (p : Pending) : Pending :=
  match p.statements with
  | [] => p
  | s :: rest => { p with statements := rest }.append (ofStatement s)

-- Looks at the first condition in the queue.
def stepCondition (aliases : AliasMap) (p : Pending) (columns : List FilterColumn) :
    Pending × List FilterColumn :=
  match p.conditions with
  | [] => (p, columns)
  | c :: rest =>
    ({ p with conditions := rest }.append (ofCondition c), add columns (ofNode? aliases c))

-- One statement and one condition a round, until nothing waits.
def run (aliases : AliasMap) : Nat → Pending → List FilterColumn → List FilterColumn
  | 0, _, columns => columns
  | k + 1, p, columns =>
    let (p, columns) := stepCondition aliases (stepStatement p) columns
    if p.statements.isEmpty && p.conditions.isEmpty then columns else run aliases k p columns

end Filter

-- The filter columns of the statements, without repetition, in the order they are first seen.
-- Every round takes at least one node, and no node is taken twice.
def filterColumns (statements : List Node) (aliases : AliasMap) : List FilterColumn :=
  Filter.run aliases (Node.sizeList statements + 1) { statements := statements } []

-- The filter columns of one statement.
structure StatementColumns where
  -- Counted from one.
  statement : Nat
  kind      : String
  columns   : List FilterColumn
deriving DecidableEq, Repr

-- Every statement on its own, with its own aliases and the further ones.
def collectColumns (statements : List Node) (extra : List (String × String)) :
    List StatementColumns :=
  (statements.zipIdx 1).map fun (statement, number) =>
    ⟨number, statement.kindName, filterColumns [statement] (statementAliases statement extra)⟩

end SqlLens
