import SqlLens.Json.Number

namespace SqlLens.Json

open Text

namespace Reader

-- JSON knows four blanks.
def isSpace (c : Char) : Bool :=
  c == ' ' || c == '\n' || c == '\t' || c == '\r'

def skip (cs : List Char) : List Char := cs.dropWhile isSpace

-- The four digits of a `\u` escape.
def hex4 (cs : List Char) : Except Fault (Nat × List Char) :=
  if (String.ofList (cs.take 4)).utf8ByteSize < 4 then .error .eofInString
  else match (cs.take 4).mapM hexValue? with
    | some [a, b, c, d] => .ok (((a * 16 + b) * 16 + c) * 16 + d, cs.drop 4)
    | _ => .error .invalidEscape

def isHighSurrogate (n : Nat) : Bool := 0xD800 ≤ n && n ≤ 0xDBFF

def isLowSurrogate (n : Nat) : Bool := 0xDC00 ≤ n && n ≤ 0xDFFF

-- An unpaired surrogate; what follows it decides the complaint.
def surrogateFault : List Char → Fault
  | '\\' :: 'u' :: _ => .loneSurrogate
  | [] | ['\\']      => .eofInString
  | _                => .unexpectedHexEnd

def simpleEscape? : Char → Option Char
  | '\x22' => some '\x22'
  | '\\'   => some '\\'
  | '/'    => some '/'
  | 'b'    => some '\x08'
  | 'f'    => some '\x0c'
  | 'n'    => some '\n'
  | 'r'    => some '\r'
  | 't'    => some '\t'
  | _      => none

-- A `\u` escape: its character or what is wrong with the characters it spells, and the rest.
def unicodeEscape (cs : List Char) : Except Fault (Except Fault Char × List Char) := do
  let (n, rest) ← hex4 cs
  if isLowSurrogate n then
    return (.error .loneSurrogate, rest)
  else if isHighSurrogate n then
    match rest with
    | '\\' :: 'u' :: rest' =>
      let (low, rest') ← hex4 rest'
      if isLowSurrogate low then
        return (.ok (Char.ofNat (0x10000 + (n - 0xD800) * 0x400 + (low - 0xDC00))), rest')
      else
        return (.error .loneSurrogate, rest')
    | _ => return (.error (surrogateFault rest), rest)
  else
    return (.ok (Char.ofNat n), rest)

-- A string read behind its opening quote.
structure Quoted where
  text  : List Char
  -- The first escape that spells no character.
  fault : Option Fault
  rest  : List Char

def Quoted.push (c : Except Fault Char) (q : Quoted) : Quoted :=
  match c with
  | .ok c    => { q with text := c :: q.text }
  | .error f => { q with fault := some f }

-- The first argument bounds the number of characters.
def quoted : Nat → List Char → Except Fault Quoted
  | 0, _ | _, [] => .error .eofInString
  | _, '\x22' :: rest => .ok ⟨[], none, rest⟩
  | n + 1, '\\' :: rest =>
    match rest with
    | [] => .error .eofInString
    | 'u' :: rest => do
      let (c, rest) ← unicodeEscape rest
      return (← quoted n rest).push c
    | e :: rest =>
      match simpleEscape? e with
      | some c => return (← quoted n rest).push (.ok c)
      | none   => .error .invalidEscape
  | n + 1, c :: rest =>
    if c.toNat < 32 then .error .controlCharacter
    else return (← quoted n rest).push (.ok c)

-- The rest behind the given word, if it is spelled out.
def word : List Char → List Char → Except Fault (List Char)
  | [], rest => .ok rest
  | _ :: _, [] => .error .eofInValue
  | w :: ws, c :: cs => if w == c then word ws cs else .error .expectedIdent

abbrev Reading (α : Type) := α × Option (List Char)

def keyword (letters : List Char) (v : Value) (cs : List Char) : Reading Value :=
  match word letters cs with
  | .ok rest => (v, some rest)
  | .error f => (.badScalar f, none)

def number (cs : List Char) : Reading Value :=
  match numeral cs with
  | .ok (literal, rest) => (.number (.ofList literal), some rest)
  | .error f => (.badScalar f, none)

def text (n : Nat) (cs : List Char) : Reading Value :=
  match quoted n cs with
  | .error f => (.openText f, none)
  | .ok ⟨chars, none, rest⟩ => (.string (.ofList chars), some rest)
  | .ok ⟨_, some f, rest⟩ => (.badText f, some rest)

mutual

-- A value behind blanks. The first argument bounds the number of characters that are read.
def value : Nat → List Char → Reading Value
  | 0, _ => (.nothing true, none)
  | n + 1, cs =>
    match skip cs with
    | [] => (.nothing true, none)
    | 'n' :: rest => keyword ['u', 'l', 'l'] .null rest
    | 't' :: rest => keyword ['r', 'u', 'e'] (.bool true) rest
    | 'f' :: rest => keyword ['a', 'l', 's', 'e'] (.bool false) rest
    | '\x22' :: rest => text (n + 1) rest
    | '[' :: rest =>
      let (items, stop, rest) := items n true rest
      (.array items stop, rest)
    | '\x7b' :: rest =>
      let (members, stop, rest) := members n true rest
      (.object members stop, rest)
    | c :: rest =>
      if c == '-' || isAsciiDigit c then number (c :: rest)
      else (.nothing false, none)

def items : Nat → Bool → List Char → List Value × ListEnd × Option (List Char)
  | 0, _, _ => ([], .eof, none)
  | n + 1, first, cs =>
    match first, skip cs with
    | _, [] => ([], .eof, none)
    | _, ']' :: rest => ([], .closed, some rest)
    | true, rest => item n rest
    | false, ',' :: rest =>
      match skip rest with
      | [] => ([], .commaEof, none)
      | ']' :: _ => ([], .comma, none)
      | rest => item n rest
    | false, _ => ([], .junk, none)

def item : Nat → List Char → List Value × ListEnd × Option (List Char)
  | 0, _ => ([], .eof, none)
  | n + 1, cs =>
    match value n cs with
    | (v, none) => ([v], .closed, none)
    | (v, some rest) =>
      let (vs, stop, rest) := items n false rest
      (v :: vs, stop, rest)

def members : Nat → Bool → List Char → List (String × Value) × ObjectEnd × Option (List Char)
  | 0, _, _ => ([], .eof, none)
  | n + 1, first, cs =>
    match first, skip cs with
    | _, [] => ([], .eof, none)
    | _, '\x7d' :: rest => ([], .closed, some rest)
    | true, rest => member n rest
    | false, ',' :: rest =>
      match skip rest with
      | [] => ([], .commaEof, none)
      | '\x7d' :: _ => ([], .comma, none)
      | rest => member n rest
    | false, _ => ([], .junk, none)

def member : Nat → List Char → List (String × Value) × ObjectEnd × Option (List Char)
  | 0, _ => ([], .eof, none)
  | n + 1, '\x22' :: cs =>
    match quoted n cs with
    | .error f => ([], .openKey f, none)
    | .ok ⟨_, some f, _⟩ => ([], .openKey f, none)
    | .ok ⟨key, none, rest⟩ =>
      let key := String.ofList key
      match skip rest with
      | [] => ([(key, .noColon true)], .closed, none)
      | ':' :: rest =>
        match value n rest with
        | (v, none) => ([(key, v)], .closed, none)
        | (v, some rest) =>
          let (ms, stop, rest) := members n false rest
          ((key, v) :: ms, stop, rest)
      | _ => ([(key, .noColon false)], .closed, none)
  | _ + 1, _ => ([], .badKey, none)

end

end Reader

-- The tree of a text; what is wrong with the text is found in it. A value spends at most three rounds
-- on each of its characters.
def read (s : String) : Document :=
  let cs := s.toList
  match Reader.value (3 * cs.length + 3) cs with
  | (v, some rest) => ⟨v, !(Reader.skip rest).isEmpty⟩
  | (v, none) => ⟨v, false⟩

end SqlLens.Json
