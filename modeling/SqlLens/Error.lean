import SqlLens.Text.Numeral
import SqlLens.Text.Search

namespace SqlLens

-- A path that does not fit the tree. Paths, kinds and slots are given by name.
inductive PathFault where
  | root
  | noStatement (path : String)
  | missing (path : String)
  | noSlot (kind slot : String)
  | shape (kind slot : String)
  | note (text : String)
deriving DecidableEq, Repr

def PathFault.message : PathFault → String
  | .root => "cannot replace a statement root"
  | .noStatement path => "no statement at " ++ path
  | .missing path => path ++ " does not exist"
  | .noSlot kind slot => kind ++ " has no " ++ slot ++ " slot"
  | .shape kind slot => "replacement shape does not fit " ++ kind ++ "." ++ slot
  | .note text => text

-- A tree that has no text.
inductive RenderFault where
  | emptyColumn
  | emptyTarget
  | incompleteAssignment
  | noText (kind : String)
  | noArm (operation side : String)
  | noOperands (operator : String)
  | noOperand (kind side : String)
  | noTest (kind : String)
  -- The refusal of a renderer of the caller's own.
  | note (text : String)
deriving DecidableEq, Repr

def RenderFault.message : RenderFault → String
  | .emptyColumn => "column reference without fields"
  | .emptyTarget => "target without name or value"
  | .incompleteAssignment => "SET item needs both a column and a value"
  | .noText kind => "no SQL text for " ++ kind ++ " node"
  | .noArm operation side => operation ++ " without " ++ side ++ " operand"
  | .noOperands operator => "operator " ++ operator ++ " without operands"
  | .noOperand kind side => kind ++ " expression without " ++ side ++ " operand"
  | .noTest kind => kind ++ " sublink without test expression"
  | .note text => text

inductive ConfigFault where
  | invalidFile
  | unknownDialect (name : String)
  | maxLength (value : String)
  | badAlias (entry : String)
  | unreadable (cause : String)
  | note (text : String)
deriving DecidableEq, Repr

def ConfigFault.message : ConfigFault → String
  | .invalidFile => "Invalid config file"
  | .unknownDialect name => "Unknown dialect: " ++ name
  | .maxLength value =>
    "SQL_INSPECTOR_MAX_LENGTH must be a positive integer, got '" ++ value ++ "'"
  | .badAlias entry => "Invalid alias '" ++ entry ++ "', expected ALIAS=TABLE"
  | .unreadable cause => "Failed to read config file: " ++ cause
  | .note text => text

inductive Error where
  -- A text that is no SQL, with the complaint of the parser.
  | query (complaint : String)
  -- A serialised tree that cannot be read, with the complaint of the reader.
  | tree (complaint : String)
  | render (fault : RenderFault)
  | path (fault : PathFault)
  | config (fault : ConfigFault)
  | file (path cause : String)
deriving DecidableEq, Repr

-- A line and a column, both counted from one.
structure Position where
  line   : Nat
  column : Nat
deriving DecidableEq, Repr

namespace Position

-- The position that a parser's complaint mentions first.
def ofComplaint? (complaint : String) : Option Position := do
  let (_, rest) ← Text.splitAt? "Line: ".toList complaint.toList
  let (line, rest) ← Text.splitAt? ", Column: ".toList rest
  let line ← Text.number? line
  let column ← Text.number? (rest.takeWhile Text.isAsciiDigit)
  return ⟨line, column⟩

end Position

def Error.message : Error → String
  | .query complaint =>
    match Position.ofComplaint? complaint with
    | some p =>
      "Query parse error at line " ++ toString p.line ++ ", column " ++ toString p.column ++
        ":\n  " ++ complaint
    | none => "Query parse error:\n  " ++ complaint
  | .tree complaint => "Invalid node tree input: " ++ complaint
  | .render fault => "Deparse error: " ++ fault.message
  | .path fault => "Truncation path error: " ++ fault.message
  | .config fault => fault.message
  | .file name cause => "Failed to read file '" ++ name ++ "': " ++ cause

-- Whether the caller is to blame, or the program's own work.
inductive Error.Side where
  | request
  | internal
deriving DecidableEq, Repr

def Error.side : Error → Error.Side
  | .query _ | .tree _ | .config _ => .request
  | .render _ | .path _ | .file _ _ => .internal

end SqlLens
