namespace SqlLens.Json

-- What can be wrong with a text, or with a document that does not describe the expected thing.
inductive Fault where
  | eofInValue
  | eofInList
  | eofInObject
  | eofInString
  | expectedValue
  | expectedIdent
  | expectedColon
  | expectedListEnd
  | expectedObjectEnd
  | keyNotString
  | trailingComma
  | trailingCharacters
  | invalidEscape
  | invalidNumber
  | numberOutOfRange
  | controlCharacter
  | loneSurrogate
  | unexpectedHexEnd
  | tooDeep
  | unitVariant
  | missingField (name : String)
  | duplicateField (name : String)
  | unknownVariant (name : String) (known : List String)
  | invalidType (found expected : String)
  | invalidLength (length : Nat) (expected : String)
deriving DecidableEq, Repr

-- How an array ends.
inductive ListEnd where
  | closed
  | eof
  -- A comma, then the closing bracket.
  | comma
  -- A comma, then the end of the text.
  | commaEof
  -- Something that is neither a comma nor a closing bracket.
  | junk
deriving DecidableEq, Repr

-- How an object ends.
inductive ObjectEnd where
  | closed
  | eof
  | comma
  | commaEof
  | junk
  -- The next key is no string.
  | badKey
  -- The next key is a string without an end.
  | openKey (fault : Fault)
deriving DecidableEq, Repr

-- The tree keeps the order of members, repeated keys and the spelling of numbers. A text that breaks
-- off has a tree too: the place where reading stopped is part of it.
inductive Value where
  | null
  | bool (b : Bool)
  | number (literal : String)
  | string (s : String)
  | array (items : List Value) (stop : ListEnd)
  | object (members : List (String × Value)) (stop : ObjectEnd)
  -- A string whose escapes do not spell characters; its extent is known.
  | badText (fault : Fault)
  -- A string without an end.
  | openText (fault : Fault)
  -- A malformed number or keyword.
  | badScalar (fault : Fault)
  -- No value begins here: the text is over, or the next character begins none.
  | nothing (eof : Bool)
  -- The member's key is not followed by a colon.
  | noColon (eof : Bool)
deriving Repr

namespace Value

def list (items : List Value) : Value := .array items .closed

def record (members : List (String × Value)) : Value := .object members .closed

def nat (n : Nat) : Value := .number (toString n)

-- An absent value is written as `null`.
def option (f : α → Value) : Option α → Value
  | some a => f a
  | none   => .null

-- The value of the last member called `key`.
def get? (key : String) : Value → Option Value
  | .object members _ => (members.reverse.find? (·.1 == key)).map (·.2)
  | _ => none

end Value

-- One reading of a text: the tree, and whether something other than blanks follows it.
structure Document where
  value    : Value
  trailing : Bool
deriving Repr

end SqlLens.Json
