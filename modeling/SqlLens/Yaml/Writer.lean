import SqlLens.Json.Value
import SqlLens.Yaml.Scalar

namespace SqlLens.Yaml

open Json

def margin (indent : Nat) : String := .ofList (blanks indent)

mutual

-- A value behind a dash. Its first line is on the line of the dash, which stands at `indent - 2`.
def item (indent : Nat) : Value → String
  | .array [] _ => "[]\n"
  | .array (v :: vs) _ => "- " ++ item (indent + 2) v ++ items indent vs
  | .object [] _ => "\x7b\x7d\n"
  | .object (m :: ms) _ => entry indent m ++ entries indent ms
  | .bool b => if b then "true\n" else "false\n"
  | .number literal => literal ++ "\n"
  | .string s => scalarLine indent s
  | _ => "null\n"

-- The items of a list, each on lines of its own.
def items (indent : Nat) : List Value → String
  | [] => ""
  | v :: vs => margin indent ++ "- " ++ item (indent + 2) v ++ items indent vs

def entries (indent : Nat) : List (String × Value) → String
  | [] => ""
  | m :: ms => margin indent ++ entry indent m ++ entries indent ms

-- A key and its value.
def entry (indent : Nat) : String × Value → String
  | (key, v) => key ++ ":" ++ field indent v

-- The value behind a key that stands at `indent`.
def field (indent : Nat) : Value → String
  | .array [] _ => " []\n"
  | .array (v :: vs) _ => "\n" ++ margin indent ++ "- " ++ item (indent + 2) v ++ items indent vs
  | .object [] _ => " \x7b\x7d\n"
  | .object (m :: ms) _ =>
    "\n" ++ margin (indent + 2) ++ entry (indent + 2) m ++ entries (indent + 2) ms
  | .bool b => if b then " true\n" else " false\n"
  | .number literal => " " ++ literal ++ "\n"
  | .string s => " " ++ scalarLine (indent + 2) s
  | _ => " null\n"

end

def write (v : Value) : String := item 0 v

end SqlLens.Yaml
