import SqlLens.Node.Path
import SqlLens.Node.Walk
import SqlLens.Render.Basic

namespace SqlLens

inductive TruncationKind where
  | targetList
  | whereClause
  | cteQuery
  | cols
deriving DecidableEq, Repr

def TruncationKind.name : TruncationKind → String
  | .targetList  => "TargetList"
  | .whereClause => "WhereClause"
  | .cteQuery    => "CteQuery"
  | .cols        => "Cols"

-- A part that may be left out.
structure Candidate where
  location   : Path
  kind       : TruncationKind
  -- Its length on its own, in characters.
  length     : Nat
  isSequence : Bool
deriving DecidableEq

-- The marker in the shape of the part it replaces.
def Candidate.replacement (c : Candidate) : Replacement :=
  if c.isSequence then .sequence [.truncated] else .scalar .truncated

namespace Candidate

-- The length of the keyword that is written in front of measured targets.
def selectWordLength : Nat := "SELECT ".length

-- A part before it is measured: the statements whose text is measured, and what of it does not
-- count.
structure Part where
  location   : Path
  kind       : TruncationKind
  measured   : List Node
  discount   : Nat := 0
  isSequence : Bool

-- One filled slot of a node, with the node's path.
structure Site where
  parent : Node
  path   : Path
  slot   : Slot
  child  : Child

namespace Site

-- The slots of one node.
def ofNode (n : Node) (path : Path) : List Site :=
  n.children.map fun (slot, child) => ⟨n, path, slot, child⟩

def location (s : Site) : Path := s.path.child s.slot none

-- The slots of the nodes in this slot.
def below (s : Site) : List Site :=
  match s.child with
  | .one n => ofNode n s.location
  | .many ns => (ns.mapIdx fun i n => ofNode n (s.path.child s.slot (some i))).flatten

-- What may be left out: the targets and the condition of a query, the query behind a name and
-- the columns of an insert.
def part? (s : Site) : Option Part :=
  match s.parent, s.slot, s.child with
  | .select _, .targetList, .many targets =>
    some ⟨s.location, .targetList, [.select { targetList := targets }], selectWordLength, true⟩
  | .select _, .whereClause, .one cond =>
    some ⟨s.location, .whereClause, [.select { whereClause := some cond }], 0, false⟩
  | .cte _, .ctequery, .one query => some ⟨s.location, .cteQuery, [query], 0, false⟩
  | _, .cols, .many cols => some ⟨s.location, .cols, cols, 0, true⟩
  | _, _, _ => none

-- All parts below the given slots; a slot comes before the slots inside it.
def survey : Nat → List Site → List Part
  | _, [] | 0, _ => []
  | k + 1, s :: rest => s.part?.toList ++ survey k (s.below ++ rest)

end Site

-- All parts of the statements. Every slot holds at least one node, which bounds the survey.
def parts (statements : List Node) : List Part :=
  Site.survey (Node.sizeList statements)
    (statements.mapIdx fun i n => Site.ofNode n (.root i)).flatten

def Part.measure (render : Renderer) (p : Part) : Except Error Candidate := do
  let text ← render p.measured
  return ⟨p.location, p.kind, text.length - p.discount, p.isSequence⟩

end Candidate

-- The parts that may be left out with their lengths, outer parts before inner ones.
def possibleTruncations (render : Renderer) (statements : List Node) :
    Except Error (List Candidate) :=
  (Candidate.parts statements).mapM (·.measure render)

end SqlLens
