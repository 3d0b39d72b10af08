import SqlLens.Error
import SqlLens.Node.Slot

namespace SqlLens

-- One step down: a slot, and a position if the slot holds a list.
structure Step where
  slot  : Slot
  index : Option Nat := none
deriving DecidableEq

structure Path where
  statement : Nat
  steps     : List Step := []
deriving DecidableEq

-- What to put into a slot.
inductive Replacement where
  | scalar (node : Node)
  | sequence (nodes : List Node)

def Step.name (s : Step) : String :=
  "." ++ s.slot.name ++
    match s.index with
    | some i => "[" ++ toString i ++ "]"
    | none   => ""

namespace Node

-- The node one step below.
def step? (n : Node) (s : Step) : Option Node :=
  match n.child? s.slot, s.index with
  | some (.one m), none => some m
  | some (.many ms), some i => ms[i]?
  | _, _ => none

-- The content of a slot at the end of a path: a position picks one element of a list.
def content? (n : Node) (s : Step) : Option Child :=
  match n.child? s.slot, s.index with
  | some c, none => some c
  | some (.many ms), some i => ms[i]?.map .one
  | _, _ => none

-- The slot at the end of the steps below this node.
def resolve? (n : Node) : List Step → Option Child
  | [] => some (.one n)
  | [s] => n.content? s
  | s :: s' :: rest => do
    let m ← n.step? s
    m.resolve? (s' :: rest)

-- The node one step below, with a way to put another node there.
def focusStep? (n : Node) (s : Step) : Option (Node × (Node → Node)) :=
  match n.focus? s.slot, s.index with
  | some (.one m put), none => some (m, put)
  | some (.optional (some m) put), none => some (m, put)
  | some (.many ms put), some i => ms[i]?.map fun m => (m, fun m' => put (ms.set i m'))
  | _, _ => none

-- Fills one slot of this node.
def fill (path : String) (n : Node) (s : Step) (r : Replacement) : Except PathFault Node :=
  match n.focus? s.slot with
  | none => .error (.noSlot n.kindName s.slot.name)
  | some focus =>
    match focus, s.index, r with
    | .one _ put, none, .scalar m => .ok (put m)
    | .optional _ put, none, .scalar m => .ok (put m)
    | .many _ put, none, .sequence ms => .ok (put ms)
    | .many ms put, some i, .scalar m =>
      if i < ms.length then .ok (put (ms.set i m)) else .error (.missing path)
    | _, _, _ => .error (.shape n.kindName s.slot.name)

-- Fills the slot at the end of the steps. `path` is the name of the whole path.
def replace (path : String) (n : Node) : List Step → Replacement → Except PathFault Node
  | [], _ => .error .root
  | [s], r => n.fill path s r
  | s :: s' :: rest, r =>
    match n.focusStep? s with
    | none => .error (.missing path)
    | some (m, put) => return put (← m.replace path (s' :: rest) r)

end Node

namespace Path

def root (statement : Nat) : Path := ⟨statement, []⟩

-- The path one step further down.
def child (p : Path) (slot : Slot) (index : Option Nat) : Path :=
  ⟨p.statement, p.steps ++ [⟨slot, index⟩]⟩

def depth (p : Path) : Nat := p.steps.length

def isRoot (p : Path) : Bool := p.steps.isEmpty

def name (p : Path) : String :=
  "[" ++ toString p.statement ++ "]" ++ String.join (p.steps.map Step.name)

-- What stands at the path.
def resolve? (p : Path) (statements : List Node) : Option Child := do
  let n ← statements[p.statement]?
  n.resolve? p.steps

-- The list with the slot at the path filled anew.
def replace (p : Path) (statements : List Node) (r : Replacement) :
    Except PathFault (List Node) :=
  if p.isRoot then .error .root
  else match statements[p.statement]? with
    | none => .error (.noStatement p.name)
    | some n => return statements.set p.statement (← n.replace p.name p.steps r)

end Path

end SqlLens
