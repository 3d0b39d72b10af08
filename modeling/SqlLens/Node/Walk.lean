import SqlLens.Node.Slot

namespace SqlLens.Node

mutual

-- The number of nodes in the tree.
def size : Node → Nat
  | .select s => 1 + sizeSelect s
  | .update ⟨relation, targets, sources, cond⟩ =>
    1 + relation.size + sizeList targets + sizeList sources + sizeOption cond
  | .delete ⟨relation, cond⟩ => 1 + relation.size + sizeOption cond
  | .insert ⟨relation, cols, source⟩ => 1 + relation.size + sizeList cols + sizeOption source
  | .derived ⟨_, subquery, _⟩ => 1 + subquery.size
  | .join ⟨_, _, l, r, _, quals⟩ => 1 + l.size + r.size + sizeOption quals
  | .with ⟨_, ctes⟩ => 1 + sizeList ctes
  | .cte ⟨_, _, query⟩ => 1 + query.size
  | .target ⟨_, val⟩ => 1 + sizeOption val
  | .operator ⟨_, _, l, r⟩ => 1 + sizeOption l + sizeOption r
  | .row ⟨args⟩ => 1 + sizeList args
  | .nullTest ⟨arg, _⟩ => 1 + arg.size
  | .call ⟨_, args, order, filter, _, _, _⟩ =>
    1 + sizeList args + sizeList order + sizeOption filter
  | .sublink ⟨_, _, test, query⟩ => 1 + sizeOption test + query.size
  | .sort ⟨n, _, _⟩ => 1 + n.size
  | .table _ | .column _ | .const _ | .star | .truncated | .other _ => 1

def sizeSelect : Select Node → Nat
  | ⟨_, _, _, on, targets, sources, cond, groups, having, order, limit, offset, ctes, l, r⟩ =>
    sizeOption ctes + sizeList on + sizeList targets + sizeList sources + sizeOption cond +
    sizeList groups + sizeOption having + sizeOption l + sizeOption r + sizeList order +
    sizeOption limit + sizeOption offset

def sizeOption : Option Node → Nat
  | none   => 0
  | some n => n.size

def sizeList : List Node → Nat
  | []      => 0
  | n :: ns => n.size + sizeList ns

end

-- The children one level below, in the order in which they are written.
def offspring (n : Node) : List Node := n.children.flatMap (·.2.nodes)

-- Takes nodes from a stack and puts their children in their place, for a number of steps.
def visit : Nat → List Node → List Node
  | _, [] | 0, _ => []
  | k + 1, n :: stack => n :: visit k (n.offspring ++ stack)

-- The node and everything below it, parents before their children.
def walk (n : Node) : List Node := visit n.size [n]

end SqlLens.Node
