namespace SqlLens.Toml

-- How a table came about. That decides what may still be added to it.
inductive Origin where
  -- By a header of its own, or as the document itself.
  | header
  -- On the way to a header.
  | implied
  -- On the way of a dotted key.
  | dotted
  -- Between braces.
  | braced
deriving DecidableEq, Repr

inductive Value where
  | text (s : String)
  | integer (n : Int)
  -- Nobody asks for its value.
  | float
  | boolean (b : Bool)
  | datetime (spelling : String)
  | array (items : List Value)
  | table (origin : Origin) (entries : List (String × Value))
  -- Tables with one header each: those that are finished, and the one that is being filled.
  | tables (finished : List (List (String × Value))) (current : List (String × Value))
deriving Repr

-- The entries of a table. No key occurs twice.
abbrev Entries := List (String × Value)

namespace Entries

-- Changes what stands under a key, where `change` may refuse. A new key goes to the end.
def alter (key : String) (change : Option Value → Option Value) : Entries → Option Entries
  | [] => do return [(key, ← change none)]
  | e :: es =>
    if e.1 == key then do return (key, ← change (some e.2)) :: es
    else do return e :: (← alter key change es)

-- Changes the table at the end of a path. Tables that are missing on the way come about by `way`;
-- a dotted key passes no table that has its own header. `change` sees how the last table came
-- about.
def alterAt (way : Origin) (change : Origin → Entries → Option Entries) (origin : Origin) :
    List String → Entries → Option Entries
  | [], es => change origin es
  | key :: path, es =>
    es.alter key fun
      | none => do return .table way (← alterAt way change way path [])
      | some (.table inner es) =>
        if inner == .braced || (way == .dotted && inner == .header) then none
        else do return .table inner (← alterAt way change inner path es)
      | some (.tables finished current) =>
        if way == .dotted then none
        else do return .tables finished (← alterAt way change .header path current)
      | some _ => none

-- A value under a key that may be dotted. A dotted key adds to tables of dotted keys only.
def insert (key : List String) (v : Value) (es : Entries) : Option Entries :=
  let path := key.dropLast
  es.alterAt .dotted (fun origin es =>
    if !path.isEmpty && origin != .dotted then none
    else es.alter (key.getLastD "") fun
      | none => some v
      | some _ => none) .header path

-- The header of a table. A table may have been on the way to an earlier header.
def openTable (key : List String) (es : Entries) : Option Entries :=
  es.alterAt .implied (fun _ es =>
    es.alter (key.getLastD "") fun
      | none => some (.table .header [])
      | some (.table .implied inner) => some (.table .header inner)
      | some _ => none) .header key.dropLast

-- The header of a further table in an array of tables.
def openNext (key : List String) (es : Entries) : Option Entries :=
  es.alterAt .implied (fun _ es =>
    es.alter (key.getLastD "") fun
      | none => some (.tables [] [])
      | some (.tables finished current) => some (.tables (finished ++ [current]) [])
      | some _ => none) .header key.dropLast

-- An entry of the table that the last header opened.
def insertUnder (header key : List String) (v : Value) (es : Entries) : Option Entries :=
  es.alterAt .implied (fun _ es => es.insert key v) .header header

end Entries

end SqlLens.Toml
