import SqlLens.Node.Basic

namespace SqlLens

inductive Slot where
  | distinctClause
  | targetList
  | fromClause
  | whereClause
  | groupClause
  | havingClause
  | sortClause
  | limitCount
  | limitOffset
  | withClause
  | larg
  | rarg
  | relation
  | cols
  | selectStmt
  | subquery
  | quals
  | ctes
  | ctequery
  | val
  | lexpr
  | rexpr
  | args
  | aggOrder
  | aggFilter
  | arg
  | testexpr
  | subselect
  | node
deriving DecidableEq

namespace Slot

def all : List Slot :=
  [.distinctClause, .targetList, .fromClause, .whereClause, .groupClause, .havingClause,
   .sortClause, .limitCount, .limitOffset, .withClause, .larg, .rarg, .relation, .cols,
   .selectStmt, .subquery, .quals, .ctes, .ctequery, .val, .lexpr, .rexpr, .args, .aggOrder,
   .aggFilter, .arg, .testexpr, .subselect, .node]

def name : Slot → String
  | .distinctClause => "distinctClause"
  | .targetList     => "targetList"
  | .fromClause     => "fromClause"
  | .whereClause    => "whereClause"
  | .groupClause    => "groupClause"
  | .havingClause   => "havingClause"
  | .sortClause     => "sortClause"
  | .limitCount     => "limitCount"
  | .limitOffset    => "limitOffset"
  | .withClause     => "withClause"
  | .larg           => "larg"
  | .rarg           => "rarg"
  | .relation       => "relation"
  | .cols           => "cols"
  | .selectStmt     => "selectStmt"
  | .subquery       => "subquery"
  | .quals          => "quals"
  | .ctes           => "ctes"
  | .ctequery       => "ctequery"
  | .val            => "val"
  | .lexpr          => "lexpr"
  | .rexpr          => "rexpr"
  | .args           => "args"
  | .aggOrder       => "aggOrder"
  | .aggFilter      => "aggFilter"
  | .arg            => "arg"
  | .testexpr       => "testexpr"
  | .subselect      => "subselect"
  | .node           => "node"

def ofName? (name : String) : Option Slot := all.find? (·.name == name)

end Slot

-- What a slot holds if it holds something.
inductive Child where
  | one (node : Node)
  | many (nodes : List Node)

def Child.nodes : Child → List Node
  | .one n   => [n]
  | .many ns => ns

-- A slot opened for a change: what it holds, and the node with something else in its place.
inductive Focus where
  | one (node : Node) (put : Node → Node)
  | optional (node : Option Node) (put : Node → Node)
  | many (nodes : List Node) (put : List Node → Node)

namespace Node

-- A child that is always there.
def always (slot : Slot) (n : Node) : List (Slot × Child) := [(slot, .one n)]

def present (slot : Slot) : Option Node → List (Slot × Child)
  | some n => [(slot, .one n)]
  | none   => []

-- An empty list counts as absent.
def nonempty (slot : Slot) : List Node → List (Slot × Child)
  | [] => []
  | ns => [(slot, .many ns)]

-- The children that are present, in the order in which they are written.
def children : Node → List (Slot × Child)
  | .select s =>
    present .withClause s.withClause ++
    nonempty .distinctClause s.distinctClause ++
    nonempty .targetList s.targetList ++
    nonempty .fromClause s.fromClause ++
    present .whereClause s.whereClause ++
    nonempty .groupClause s.groupClause ++
    present .havingClause s.havingClause ++
    present .larg s.larg ++
    present .rarg s.rarg ++
    nonempty .sortClause s.sortClause ++
    present .limitCount s.limitCount ++
    present .limitOffset s.limitOffset
  | .update u =>
    always .relation u.relation ++
    nonempty .targetList u.targetList ++
    nonempty .fromClause u.fromClause ++
    present .whereClause u.whereClause
  | .delete d => always .relation d.relation ++ present .whereClause d.whereClause
  | .insert i =>
    always .relation i.relation ++
    nonempty .cols i.cols ++
    present .selectStmt i.selectStmt
  | .derived d => always .subquery d.subquery
  | .join j => always .larg j.larg ++ always .rarg j.rarg ++ present .quals j.quals
  | .with w => nonempty .ctes w.ctes
  | .cte c => always .ctequery c.ctequery
  | .target t => present .val t.val
  | .operator o => present .lexpr o.lexpr ++ present .rexpr o.rexpr
  | .row r => nonempty .args r.args
  | .nullTest t => always .arg t.arg
  | .call c =>
    nonempty .args c.args ++
    nonempty .aggOrder c.aggOrder ++
    present .aggFilter c.aggFilter
  | .sublink l => present .testexpr l.testexpr ++ always .subselect l.subselect
  | .sort s => always .node s.node
  | .table _ | .column _ | .const _ | .star | .truncated | .other _ => []

def child? (n : Node) (slot : Slot) : Option Child :=
  (n.children.find? (·.1 == slot)).map (·.2)

-- The slot of this kind of node, filled or not.
def focus? : Node → Slot → Option Focus
  | .select s, .withClause => some (.optional s.withClause fun n => .select { s with withClause := some n })
  | .select s, .distinctClause => some (.many s.distinctClause fun ns => .select { s with distinctClause := ns })
  | .select s, .targetList => some (.many s.targetList fun ns => .select { s with targetList := ns })
  | .select s, .fromClause => some (.many s.fromClause fun ns => .select { s with fromClause := ns })
  | .select s, .whereClause => some (.optional s.whereClause fun n => .select { s with whereClause := some n })
  | .select s, .groupClause => some (.many s.groupClause fun ns => .select { s with groupClause := ns })
  | .select s, .havingClause => some (.optional s.havingClause fun n => .select { s with havingClause := some n })
  | .select s, .larg => some (.optional s.larg fun n => .select { s with larg := some n })
  | .select s, .rarg => some (.optional s.rarg fun n => .select { s with rarg := some n })
  | .select s, .sortClause => some (.many s.sortClause fun ns => .select { s with sortClause := ns })
  | .select s, .limitCount => some (.optional s.limitCount fun n => .select { s with limitCount := some n })
  | .select s, .limitOffset => some (.optional s.limitOffset fun n => .select { s with limitOffset := some n })
  | .update u, .relation => some (.one u.relation fun n => .update { u with relation := n })
  | .update u, .targetList => some (.many u.targetList fun ns => .update { u with targetList := ns })
  | .update u, .fromClause => some (.many u.fromClause fun ns => .update { u with fromClause := ns })
  | .update u, .whereClause => some (.optional u.whereClause fun n => .update { u with whereClause := some n })
  | .delete d, .relation => some (.one d.relation fun n => .delete { d with relation := n })
  | .delete d, .whereClause => some (.optional d.whereClause fun n => .delete { d with whereClause := some n })
  | .insert i, .relation => some (.one i.relation fun n => .insert { i with relation := n })
  | .insert i, .cols => some (.many i.cols fun ns => .insert { i with cols := ns })
  | .insert i, .selectStmt => some (.optional i.selectStmt fun n => .insert { i with selectStmt := some n })
  | .derived d, .subquery => some (.one d.subquery fun n => .derived { d with subquery := n })
  | .join j, .larg => some (.one j.larg fun n => .join { j with larg := n })
  | .join j, .rarg => some (.one j.rarg fun n => .join { j with rarg := n })
  | .join j, .quals => some (.optional j.quals fun n => .join { j with quals := some n })
  | .with w, .ctes => some (.many w.ctes fun ns => .with { w with ctes := ns })
  | .cte c, .ctequery => some (.one c.ctequery fun n => .cte { c with ctequery := n })
  | .target t, .val => some (.optional t.val fun n => .target { t with val := some n })
  | .operator o, .lexpr => some (.optional o.lexpr fun n => .operator { o with lexpr := some n })
  | .operator o, .rexpr => some (.optional o.rexpr fun n => .operator { o with rexpr := some n })
  | .row r, .args => some (.many r.args fun ns => .row { r with args := ns })
  | .nullTest t, .arg => some (.one t.arg fun n => .nullTest { t with arg := n })
  | .call c, .args => some (.many c.args fun ns => .call { c with args := ns })
  | .call c, .aggOrder => some (.many c.aggOrder fun ns => .call { c with aggOrder := ns })
  | .call c, .aggFilter => some (.optional c.aggFilter fun n => .call { c with aggFilter := some n })
  | .sublink l, .testexpr => some (.optional l.testexpr fun n => .sublink { l with testexpr := some n })
  | .sublink l, .subselect => some (.one l.subselect fun n => .sublink { l with subselect := n })
  | .sort s, .node => some (.one s.node fun n => .sort { s with node := n })
  | _, _ => none

end Node

end SqlLens
