import SqlLens.Json.Value
import SqlLens.Text.Quoted

namespace SqlLens.Json

def escape (c : Char) : String :=
  if c == '\x22' then "\\\x22"
  else if c == '\\' then "\\\\"
  else if c == '\n' then "\\n"
  else if c == '\r' then "\\r"
  else if c == '\t' then "\\t"
  else if c == '\x08' then "\\b"
  else if c == '\x0c' then "\\f"
  else if c.toNat < 16 then "\\u000" ++ Text.hexDigits c.toNat
  else if c.toNat < 32 then "\\u00" ++ Text.hexDigits c.toNat
  else .ofList [c]

def writeString (s : String) : String :=
  "\x22" ++ String.join (s.toList.map escape) ++ "\x22"

-- A line break and two blanks for each level.
def newline (level : Nat) : String :=
  "\n" ++ .ofList (List.replicate (2 * level) ' ')

-- The pieces between brackets, each on a line of its own when a level is given.
def bracket (left right : String) (pretty : Option Nat) (pieces : List String) : String :=
  match pieces, pretty with
  | [], _ => left ++ right
  | pieces, none => left ++ ",".intercalate pieces ++ right
  | pieces, some level =>
    left ++ newline (level + 1) ++ ("," ++ newline (level + 1)).intercalate pieces ++
      newline level ++ right

namespace Value

mutual

-- `pretty` is the current level, or nothing for the text on one line.
def write (pretty : Option Nat) : Value → String
  | .null => "null"
  | .bool b => if b then "true" else "false"
  | .number literal => literal
  | .string s => writeString s
  | .array items _ => bracket "[" "]" pretty (writeItems (pretty.map (· + 1)) items)
  | .object members _ => bracket "\x7b" "\x7d" pretty (writeMembers (pretty.map (· + 1)) members)
  | .badText _ | .openText _ | .badScalar _ | .nothing _ | .noColon _ => "null"

def writeItems (pretty : Option Nat) : List Value → List String
  | [] => []
  | v :: vs => v.write pretty :: writeItems pretty vs

def writeMembers (pretty : Option Nat) : List (String × Value) → List String
  | [] => []
  | m :: ms => writeMember pretty m :: writeMembers pretty ms

def writeMember (pretty : Option Nat) : String × Value → String
  | (key, v) => writeString key ++ (if pretty.isSome then ": " else ":") ++ v.write pretty

end

def compact (v : Value) : String := v.write none

def pretty (v : Value) : String := v.write (some 0)

end Value

end SqlLens.Json
