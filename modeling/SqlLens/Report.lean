import SqlLens.Filter
import SqlLens.Json.Writer
import SqlLens.Truncate.Basic
import SqlLens.Yaml.Writer

namespace SqlLens

inductive Report.Format where
  | text
  | json
  | yaml
deriving DecidableEq, Repr

namespace Report

structure Options where
  format  : Format := .text
  colored : Bool := true
deriving DecidableEq, Repr

inductive Paint where
  | heading
  | faint
  | yellow
  | green
deriving DecidableEq, Repr

-- The sequence that begins to colour.
def Paint.code : Paint → String
  | .heading => "\x1b[1;36m"
  | .faint   => "\x1b[2m"
  | .yellow  => "\x1b[33m"
  | .green   => "\x1b[32m"

def reset : String := "\x1b[0m"

-- Colours a text. Where the text itself ends colouring, its own colour begins anew.
def paint (colored : Bool) (p : Paint) (text : String) : String :=
  if colored then
    p.code ++ .ofList (resume text.toList.length text.toList) ++ reset
  else text
where
  resume : Nat → List Char → List Char
    | 0, cs => cs
    | n + 1, cs =>
      match Text.splitAt? reset.toList cs with
      | some (before, rest) => before ++ reset.toList ++ p.code.toList ++ resume n rest
      | none => cs

def columnLine (colored : Bool) (c : FilterColumn) : String :=
  let name := match c.table with
    | some table => paint colored .yellow table ++ "." ++ c.column
    | none => c.column
  "  " ++ name ++ "\n"

def columnsText (colored : Bool) (r : StatementColumns) : String :=
  let heading := "Statement #" ++ toString r.statement ++ " (" ++ r.kind ++ "):"
  let none := paint colored .faint "  (no filter columns)" ++ "\n"
  paint colored .heading heading ++ "\n" ++
    (if r.columns.isEmpty then none else String.join (r.columns.map (columnLine colored))) ++ "\n"

def status (colored : Bool) (r : TruncatedStatement) : String :=
  if r.truncated then
    paint colored .yellow
      ("truncated " ++ toString r.fullLength ++ " -> " ++ toString r.length)
  else paint colored .green (toString r.length ++ " chars")

def truncationText (colored : Bool) (r : TruncatedStatement) : String :=
  paint colored .heading ("Statement #" ++ toString r.statement) ++
    " [" ++ status colored r ++ "]\n" ++ r.sql ++ "\n\n"

open Json

def columnValue (c : FilterColumn) : Value :=
  .record [("table", .option .string c.table), ("column", .string c.column)]

def columnsValue (r : StatementColumns) : Value :=
  .record [
    ("statement", .nat r.statement),
    ("kind", .string r.kind),
    ("columns", .list (r.columns.map columnValue))]

def truncationValue (r : TruncatedStatement) : Value :=
  .record [
    ("statement", .nat r.statement),
    ("original_length", .nat r.fullLength),
    ("length", .nat r.length),
    ("truncated", .bool r.truncated),
    ("sql", .string r.sql)]

-- All results in the chosen format.
def write (o : Options) (line : Bool → α → String) (value : α → Value) (results : List α) :
    String :=
  match o.format with
  | .text => String.join (results.map (line o.colored))
  | .json => (Value.list (results.map value)).pretty
  | .yaml => Yaml.write (.list (results.map value))

def columns (o : Options) (results : List StatementColumns) : String :=
  write o columnsText columnsValue results

def truncations (o : Options) (results : List TruncatedStatement) : String :=
  write o truncationText truncationValue results

end Report

end SqlLens
