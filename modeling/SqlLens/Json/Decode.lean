import SqlLens.Json.Reader

namespace SqlLens.Json

-- The text of a complaint.
def Fault.message : Fault → String
  | .eofInValue => "EOF while parsing a value"
  | .eofInList => "EOF while parsing a list"
  | .eofInObject => "EOF while parsing an object"
  | .eofInString => "EOF while parsing a string"
  | .expectedValue => "expected value"
  | .expectedIdent => "expected ident"
  | .expectedColon => "expected \x60:\x60"
  | .expectedListEnd => "expected \x60,\x60 or \x60]\x60"
  | .expectedObjectEnd => "expected \x60,\x60 or \x60\x7d\x60"
  | .keyNotString => "key must be a string"
  | .trailingComma => "trailing comma"
  | .trailingCharacters => "trailing characters"
  | .invalidEscape => "invalid escape"
  | .invalidNumber => "invalid number"
  | .numberOutOfRange => "number out of range"
  | .controlCharacter => "control character (\\u0000-\\u001F) found while parsing a string"
  | .loneSurrogate => "lone leading surrogate in hex escape"
  | .unexpectedHexEnd => "unexpected end of hex escape"
  | .tooDeep => "recursion limit exceeded"
  | .unitVariant => "invalid type: unit variant, expected newtype variant"
  | .missingField name => "missing field " ++ tick name
  | .duplicateField name => "duplicate field " ++ tick name
  | .unknownVariant name known => "unknown variant " ++ tick name ++ ", " ++ expected known
  | .invalidType found expected => "invalid type: " ++ found ++ ", expected " ++ expected
  | .invalidLength n expected => "invalid length " ++ toString n ++ ", expected " ++ expected
where
  tick (s : String) : String := "\x60" ++ s ++ "\x60"
  expected : List String → String
    | [a, b] => "expected " ++ tick a ++ " or " ++ tick b
    | known => "expected one of " ++ ", ".intercalate (known.map tick)

abbrev Decoded (α : Type) := Except Fault α

-- Decoders look at everything in document order, so of several faults the first one is reported.
abbrev Decoder (α : Type) := Value → Decoded α

-- The break at the end of an array that is read to its end.
def ListEnd.check : ListEnd → Decoded Unit
  | .closed => .ok ()
  | .eof => .error .eofInList
  | .comma => .error .trailingComma
  | .commaEof => .error .eofInValue
  | .junk => .error .expectedListEnd

-- The same for an array of which no further item is expected.
def ListEnd.checkFull : ListEnd → Decoded Unit
  | .closed => .ok ()
  | .eof => .error .eofInList
  | .comma => .error .trailingComma
  | .commaEof | .junk => .error .trailingCharacters

def ObjectEnd.check : ObjectEnd → Decoded Unit
  | .closed => .ok ()
  | .eof => .error .eofInObject
  | .comma => .error .trailingComma
  | .commaEof => .error .eofInValue
  | .junk => .error .expectedObjectEnd
  | .badKey => .error .keyNotString
  | .openKey f => .error f

namespace Value

mutual

-- Passes over a value that nobody asked for; only breaks in the text count.
def skip : Value → Decoded Unit
  | .array items stop => do
    skipItems items
    match stop with
    | .comma => .error .expectedValue
    | stop => stop.check
  | .object members stop => do
    skipMembers members
    match stop with
    | .comma => .error .keyNotString
    | .commaEof => .error .eofInObject
    | stop => stop.check
  | .null | .bool _ | .number _ | .string _ | .badText _ => .ok ()
  | .openText f | .badScalar f => .error f
  | .nothing eof => .error (if eof then .eofInValue else .expectedValue)
  | .noColon eof => .error (if eof then .eofInObject else .expectedColon)

def skipItems : List Value → Decoded Unit
  | [] => .ok ()
  | v :: vs => do
    v.skip
    skipItems vs

def skipMembers : List (String × Value) → Decoded Unit
  | [] => .ok ()
  | m :: ms => do
    skipMember m
    skipMembers ms

def skipMember : String × Value → Decoded Unit
  | (_, v) => v.skip

end

end Value

namespace Decode

def string : Decoder String
  | .string s => .ok s
  | v => .error (v.mismatch "a string")

def bool : Decoder Bool
  | .bool b => .ok b
  | v => .error (v.mismatch "a boolean")

def unit : Decoder Unit
  | .null => .ok ()
  | v => .error (v.mismatch "unit")

def option (decode : Decoder α) : Decoder (Option α)
  | .null => .ok none
  | v => return some (← decode v)

-- `limit` counts the arrays and objects that may still be opened, the one that must not included.
def enter (limit : Nat) : Decoded Unit :=
  if limit ≤ 1 then .error .tooDeep else .ok ()

def list (limit : Nat) (decode : Decoder α) : Decoder (List α)
  | .array items stop => do
    enter limit
    let as ← items.mapM decode
    stop.check
    return as
  | v => .error (v.mismatch "a sequence")

-- Whether a field may be left out: never, only where fields are named, or always.
inductive Presence where
  | required
  | optional
  | defaulted
deriving DecidableEq, Repr

-- One field of a record `ρ`: how its value is read and put into the record.
structure Field (ρ : Type) where
  name     : String
  presence : Presence
  set      : Value → ρ → Decoded ρ

def field (name : String) (presence : Presence) (decode : Decoder α) (set : ρ → α → ρ) :
    Field ρ where
  name := name
  presence := presence
  set v r := return set r (← decode v)

-- Named fields in any order; names of no field are passed over.
def members (fields : List (Field ρ)) : List String → List (String × Value) → ρ →
    Decoded (List String × ρ)
  | seen, [], r => .ok (seen, r)
  | seen, (key, v) :: ms, r =>
    match fields.find? (·.name == key) with
    | none => do
      v.skip
      members fields seen ms r
    | some f =>
      if seen.contains key then .error (.duplicateField key)
      else do
        let r ← f.set v r
        members fields (key :: seen) ms r

-- Fields by position; `n` of them have been read.
def positions (expected : String) (n : Nat) : List (Field ρ) → List Value → ListEnd → ρ →
    Decoded ρ
  | [], [], stop, r => do
    stop.checkFull
    return r
  | [], _ :: _, _, _ => .error .trailingCharacters
  | f :: fields, [], stop, r => do
    stop.check
    if f.presence == .defaulted then positions expected (n + 1) fields [] stop r
    else .error (.invalidLength n expected)
  | f :: fields, v :: vs, stop, r => do
    let r ← f.set v r
    positions expected (n + 1) fields vs stop r

def elements : Nat → String
  | 1 => "1 element"
  | n => toString n ++ " elements"

-- A record with the given name. Reading starts from `blank` and sets one field after the other;
-- afterwards every required field must have been seen.
def record (limit : Nat) (name : String) (blank : ρ) (fields : List (Field ρ)) : Decoder ρ
  | .array items stop => do
    enter limit
    positions ("struct " ++ name ++ " with " ++ elements fields.length) 0 fields items stop blank
  | .object ms stop => do
    enter limit
    let (seen, r) ← members fields [] ms blank
    stop.check
    match fields.find? fun f => f.presence == .required && !seen.contains f.name with
    | some f => .error (.missingField f.name)
    | none   => return r
  | v => .error (v.mismatch ("struct " ++ name))

-- A value of a sum type, as its tag and the value the tag carries, if any.
structure Tagged where
  tag     : String
  content : Option Value

-- The tag of an alternative is a string of its own or the only key of an object.
def tagged (limit : Nat) (decode : Tagged → Decoded α) : Decoder α
  | .string tag => decode ⟨tag, none⟩
  | .object ((tag, v) :: ms) stop => do
    enter limit
    let a ← decode ⟨tag, some v⟩
    match ms, stop with
    | [], .closed => return a
    | [], .eof => .error .eofInObject
    | _, _ => .error .expectedValue
  | .object [] stop => do
    enter limit
    match stop with
    | .eof => .error .eofInObject
    | .openKey f => .error f
    | _ => .error .keyNotString
  | .badText f | .openText f => .error f
  | .nothing true => .error .eofInValue
  | .noColon eof => .error (if eof then .eofInObject else .expectedColon)
  | _ => .error .expectedValue

-- An alternative that carries nothing.
def Tagged.plain (t : Tagged) (a : α) : Decoded α :=
  match t.content with
  | none => .ok a
  | some v => do
    unit v
    return a

-- An alternative that carries a value.
def Tagged.carrying (t : Tagged) (decode : Decoder α) : Decoded α :=
  match t.content with
  | none => .error .unitVariant
  | some v => decode v

-- A sum type whose alternatives carry nothing.
def choice (limit : Nat) (known : List (String × α)) : Decoder α :=
  tagged limit fun t =>
    match known.find? (·.1 == t.tag) with
    | some (_, a) => t.plain a
    | none => .error (.unknownVariant t.tag (known.map (·.1)))

end Decode

-- A whole document: nothing may follow the value.
def Document.decode (decode : Decoder α) (d : Document) : Decoded α := do
  let a ← decode d.value
  if d.trailing then .error .trailingCharacters else return a

end SqlLens.Json
