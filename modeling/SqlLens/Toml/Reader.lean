import SqlLens.Toml.Scalar

namespace SqlLens.Toml

open Text

namespace Reader

-- A part of the document and what follows it.
abbrev Reading (α : Type) := α × List Char

def isSpace (c : Char) : Bool := c == ' ' || c == '\t'

def skip (cs : List Char) : List Char := cs.dropWhile isSpace

-- Characters that no text and no comment holds as they are.
def isControl (c : Char) : Bool := (c.toNat < 32 && c != '\t') || c.toNat == 127

def newline? : List Char → Option (List Char)
  | '\n' :: rest => some rest
  | '\r' :: '\n' :: rest => some rest
  | _ => none

-- The rest behind a comment; the line break stays.
def comment? (cs : List Char) : Option (List Char) :=
  let rest := cs.dropWhile (! isControl ·)
  if rest.isEmpty || (newline? rest).isSome then some rest else none

-- Blanks, line breaks and comments between items.
def gap : Nat → List Char → Option (List Char)
  | 0, cs => some cs
  | n + 1, cs =>
    match skip cs with
    | '#' :: rest => do gap n (← comment? rest)
    | cs =>
      match newline? cs with
      | some rest => gap n rest
      | none => some cs

-- Every blank and line break in front.
def skipLines : List Char → List Char
  | '\r' :: '\n' :: rest => skipLines rest
  | c :: rest => if isSpace c || c == '\n' then skipLines rest else c :: rest
  | [] => []

-- The character whose number is written in `count` hexadecimal digits.
def numbered? (count : Nat) (cs : List Char) : Option (Reading Char) := do
  let ds := cs.take count
  let n := valueOf 16 ds
  if ds.length == count && ds.all isHexDigit && n.isValidChar then
    some (Char.ofNat n, cs.drop count)
  else none

-- What a backslash and the characters behind it stand for.
def escape? : List Char → Option (Reading Char)
  | 'b' :: rest => some ('\x08', rest)
  | 't' :: rest => some ('\t', rest)
  | 'n' :: rest => some ('\n', rest)
  | 'f' :: rest => some ('\x0c', rest)
  | 'r' :: rest => some ('\r', rest)
  | 'e' :: rest => some ('\x1b', rest)
  | '\x22' :: rest => some ('\x22', rest)
  | '\\' :: rest => some ('\\', rest)
  | 'x' :: rest => numbered? 2 rest
  | 'u' :: rest => numbered? 4 rest
  | 'U' :: rest => numbered? 8 rest
  | _ => none

def push (c : Char) : List Char × List Char → List Char × List Char
  | (cs, rest) => (c :: cs, rest)

-- Behind the opening mark of a text with escapes. The first argument bounds its length.
def basic? : Nat → List Char → Option (Reading (List Char))
  | 0, _ | _, [] => none
  | _, '\x22' :: rest => some ([], rest)
  | n + 1, '\\' :: rest => do
    let (c, rest) ← escape? rest
    return push c (← basic? n rest)
  | n + 1, c :: rest => if isControl c then none else return push c (← basic? n rest)

-- Behind the opening mark of a text without escapes.
def literal? (cs : List Char) : Option (Reading (List Char)) :=
  match cs.span fun c => c != '\x27' && !isControl c with
  | (s, '\x27' :: rest) => some (s, rest)
  | _ => none

-- The closing marks of a text of several lines; up to two more belong to the text.
def closing? (mark : Char) (cs : List Char) : Option (Reading (List Char)) :=
  let marks := (cs.takeWhile (· == mark)).take 5
  if marks.length < 3 then none else some (marks.drop 3, cs.drop marks.length)

-- A line break, or a character other than a control.
def lineChar? : List Char → Option (Reading Char)
  | '\r' :: '\n' :: rest => some ('\r', '\n' :: rest)
  | c :: rest => if isControl c && c != '\n' then none else some (c, rest)
  | [] => none

-- A text of several lines; a backslash at the end of a line takes all blanks behind it with it.
def longBasic? : Nat → List Char → Option (Reading (List Char))
  | 0, _ => none
  | n + 1, cs =>
    match closing? '\x22' cs, cs with
    | some found, _ => some found
    | none, '\\' :: rest =>
      match newline? (skip rest) with
      | some rest => longBasic? n (skipLines rest)
      | none => do
        let (c, rest) ← escape? rest
        return push c (← longBasic? n rest)
    | none, cs => do
      let (c, rest) ← lineChar? cs
      return push c (← longBasic? n rest)

def longLiteral? : Nat → List Char → Option (Reading (List Char))
  | 0, _ => none
  | n + 1, cs =>
    match closing? '\x27' cs with
    | some found => some found
    | none => do
      let (c, rest) ← lineChar? cs
      return push c (← longLiteral? n rest)

-- A line break right behind the opening marks does not count.
def firstLine (cs : List Char) : List Char := (newline? cs).getD cs

def text? (cs : List Char) : Option (Reading String) := do
  let (s, rest) ← match cs with
    | '\x22' :: '\x22' :: '\x22' :: rest => longBasic? cs.length (firstLine rest)
    | '\x27' :: '\x27' :: '\x27' :: rest => longLiteral? cs.length (firstLine rest)
    | '\x22' :: rest => basic? cs.length rest
    | '\x27' :: rest => literal? rest
    | _ => none
  return (.ofList s, rest)

def continuesKey (c : Char) : Bool := isAsciiLetter c || isAsciiDigit c || c == '_' || c == '-'

def simpleKey? (cs : List Char) : Option (Reading String) :=
  match cs with
  | '\x22' :: rest => do
    let (s, rest) ← basic? cs.length rest
    return (.ofList s, rest)
  | '\x27' :: rest => do
    let (s, rest) ← literal? rest
    return (.ofList s, rest)
  | cs =>
    let (s, rest) := cs.span continuesKey
    if s.isEmpty then none else some (.ofList s, rest)

-- The parts of a key with points between them; blanks do not matter.
def key? : Nat → List Char → Option (Reading (List String))
  | 0, _ => none
  | n + 1, cs => do
    let (part, rest) ← simpleKey? (skip cs)
    match skip rest with
    | '.' :: rest =>
      let (parts, rest) ← key? n rest
      return (part :: parts, rest)
    | rest => return ([part], rest)

mutual

def value? : Nat → List Char → Option (Reading Value)
  | 0, _ => none
  | n + 1, cs =>
    match cs with
    | '[' :: rest => do
      let (items, rest) ← items? n rest
      return (.array items, rest)
    | '\x7b' :: rest => do
      let (entries, rest) ← entries? n [] rest
      return (.table .braced entries, rest)
    | cs =>
      if cs.head? == some '\x22' || cs.head? == some '\x27' then do
        let (s, rest) ← text? cs
        return (.text s, rest)
      else
        let (s, rest) := scalarSpan cs
        (scalar? s).map (·, rest)

-- Behind the opening bracket or a comma.
def items? : Nat → List Char → Option (Reading (List Value))
  | 0, _ => none
  | n + 1, cs => do
    match ← gap cs.length cs with
    | ']' :: rest => return ([], rest)
    | cs =>
      let (v, rest) ← value? n cs
      match ← gap rest.length rest with
      | ']' :: rest => return ([v], rest)
      | ',' :: rest =>
        let (vs, rest) ← items? n rest
        return (v :: vs, rest)
      | _ => none

-- Behind the opening brace or a comma, with the entries so far.
def entries? : Nat → Entries → List Char → Option (Reading Entries)
  | 0, _, _ => none
  | n + 1, es, cs => do
    match ← gap cs.length cs with
    | '\x7d' :: rest => return (es, rest)
    | cs =>
      let (key, rest) ← key? cs.length cs
      match rest with
      | '=' :: rest =>
        let (v, rest) ← value? n (skip rest)
        let es ← es.insert key v
        match ← gap rest.length rest with
        | '\x7d' :: rest => return (es, rest)
        | ',' :: rest => entries? n es rest
        | _ => none
      | _ => none

end

-- A document up to some line: its entries, and the header that is in force.
structure Draft where
  entries : Entries := []
  header  : List String := []

-- Closing brackets of a header.
def closeHeader? (brackets : List Char) (cs : List Char) : Option (List Char) :=
  if cs.take brackets.length == brackets then some (cs.drop brackets.length) else none

-- One line up to a comment or its end.
def line? (d : Draft) (cs : List Char) : Option (Reading Draft) :=
  match skip cs with
  | '[' :: '[' :: rest => do
    let (key, rest) ← key? rest.length rest
    let rest ← closeHeader? [']', ']'] rest
    return (⟨← d.entries.openNext key, key⟩, rest)
  | '[' :: rest => do
    let (key, rest) ← key? rest.length rest
    let rest ← closeHeader? [']'] rest
    return (⟨← d.entries.openTable key, key⟩, rest)
  | [] => some (d, [])
  | c :: rest =>
    if c == '#' || (newline? (c :: rest)).isSome then some (d, c :: rest)
    else do
      match ← key? cs.length (c :: rest) with
      | (key, '=' :: rest) =>
        let (v, rest) ← value? rest.length (skip rest)
        return ({ d with entries := ← d.entries.insertUnder d.header key v }, rest)
      | _ => none

-- The rest behind a comment and the end of a line.
def lineEnd? (cs : List Char) : Option (List Char) := do
  let rest ← match skip cs with
    | '#' :: rest => comment? rest
    | rest => some rest
  if rest.isEmpty then some [] else newline? rest

-- Every line has at least its line break, which bounds their number.
def lines? : Nat → Draft → List Char → Option Entries
  | _, d, [] => some d.entries
  | 0, _, _ => none
  | n + 1, d, cs => do
    let (d, rest) ← line? d cs
    lines? n d (← lineEnd? rest)

end Reader

-- The entries of a document. A byte order mark in front does not count.
def read? (text : String) : Option Entries :=
  let cs := match text.toList with
    | '\ufeff' :: cs => cs
    | cs => cs
  Reader.lines? cs.length {} cs

end SqlLens.Toml
