import SqlLens.Truncate.Basic

namespace SqlLens.Truncate

-- The number of parts that are replaced before a text fits.
def replaced (render : Renderer) (maxLength : Nat) : List Candidate → List Node → Nat
  | [], _ => 0
  | c :: rest, statements =>
    match c.location.replace statements c.replacement with
    | .error _ => 0
    | .ok statements =>
      match render statements with
      | .error _ => 1
      | .ok text =>
        if text.length ≤ maxLength then 1 else 1 + replaced render maxLength rest statements

-- How often a truncation renders: once in full, and if that is too long, once for each measured part
-- and once for each replaced part.
def renderings (render : Renderer) (statements : List Node) (maxLength : Nat) :
    Except Error Nat := do
  let text ← render statements
  if text.length ≤ maxLength then return 1
  let candidates ← possibleTruncations render statements
  return 1 + candidates.length + replaced render maxLength (schedule candidates) statements

end SqlLens.Truncate
