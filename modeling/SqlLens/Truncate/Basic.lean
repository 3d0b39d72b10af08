import SqlLens.Truncate.Candidate

namespace SqlLens

namespace Truncate

def ellipsis : String := "..."

-- Shorter parts are not worth replacing.
def minLength : Nat := 3

-- As many characters as leave room for the ellipsis, and the ellipsis.
def hardCut (text : String) (maxLength : Nat) : String :=
  .ofList (text.toList.take (maxLength - ellipsis.length)) ++ ellipsis

-- Deeper parts go first, among equally deep ones the longer.
def before (a b : Candidate) : Bool :=
  b.location.depth < a.location.depth ||
    (a.location.depth == b.location.depth && b.length ≤ a.length)

-- The parts in the order in which they are replaced. Parts that tie keep their order.
def schedule (candidates : List Candidate) : List Candidate :=
  (candidates.mergeSort before).filter fun c => minLength ≤ c.length

-- Replaces one part after the other and takes the first text that fits.
def search (render : Renderer) (maxLength : Nat) : List Candidate → List Node →
    Except Error (Option String)
  | [], _ => .ok none
  | c :: rest, statements => do
    let statements ← (c.location.replace statements c.replacement).mapError .path
    let text ← render statements
    if text.length ≤ maxLength then return some text
    else search render maxLength rest statements

end Truncate

-- The text of the statements in at most `maxLength` characters, if that is no less than three.
def truncate (render : Renderer) (statements : List Node) (maxLength : Nat) :
    Except Error String := do
  let text ← render statements
  if text.length ≤ maxLength then return text
  let candidates ← possibleTruncations render statements
  match ← Truncate.search render maxLength (Truncate.schedule candidates) statements with
  | some fitting => return fitting
  | none => return Truncate.hardCut text maxLength

-- One statement, fitted on its own.
structure TruncatedStatement where
  -- Counted from one.
  statement  : Nat
  -- The length of the statement as it is.
  fullLength : Nat
  length     : Nat
  truncated  : Bool
  sql        : String
deriving DecidableEq, Repr

def truncateStatement (render : Renderer) (maxLength number : Nat) (statement : Node) :
    Except Error TruncatedStatement := do
  let full ← render [statement]
  let sql ← truncate render [statement] maxLength
  return ⟨number, full.length, sql.length, sql != full, sql⟩

-- Every statement, fitted on its own.
def truncateStatements (render : Renderer) (statements : List Node) (maxLength : Nat) :
    Except Error (List TruncatedStatement) :=
  (statements.zipIdx 1).mapM fun (statement, number) =>
    truncateStatement render maxLength number statement

end SqlLens
