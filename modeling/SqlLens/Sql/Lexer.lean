import SqlLens.Sql.Token
import SqlLens.Text.Blank

namespace SqlLens.Sql.Lexer

open Text

-- Something wrong, `offset` characters behind the start of the token.
structure Flaw where
  text   : String
  offset : Nat

abbrev Step (α : Type) := Except Flaw (α × List Char)

-- A blank or comment is skipped, but remembered by its text.
inductive Item where
  | token (t : Token)
  | gap (text : String)

-- A single quoted string behind its opening quote. `none` if it does not end.
def quotedBody (mark : Char) (backslash keepWildcards : Bool) : List Char →
    Option (List Char × List Char)
  | [] => none
  | c :: cs =>
    if c == mark then
      match cs with
      | c' :: cs' =>
        if c' == mark then
          (quotedBody mark backslash keepWildcards cs').map fun (s, rest) => (mark :: s, rest)
        else some ([], c' :: cs')
      | [] => some ([], [])
    else if backslash && c == '\\' then
      match cs with
      | [] => none
      | e :: cs' =>
        (quotedBody mark backslash keepWildcards cs').map fun (s, rest) =>
          if keepWildcards && (e == '%' || e == '_') then (c :: e :: s, rest)
          else (unescape e :: s, rest)
    else (quotedBody mark backslash keepWildcards cs).map fun (s, rest) => (c :: s, rest)
where
  unescape : Char → Char
    | '0' => Char.ofNat 0
    | 'a' => Char.ofNat 7
    | 'b' => Char.ofNat 8
    | 'f' => Char.ofNat 12
    | 'n' => '\n'
    | 'r' => '\r'
    | 't' => '\t'
    | 'Z' => Char.ofNat 26
    | c   => c

-- A string behind `offset` characters and its opening quote.
def quoted (d : Dialect) (mark : Char) (backslash : Bool) (offset : Nat) (form : Quotation)
    (cs : List Char) : Step Item :=
  match quotedBody mark backslash d.keepsWildcardEscapes cs with
  | some (s, rest) => .ok (.token (.string form (.ofList s)), rest)
  | none => .error ⟨"Unterminated string literal", offset⟩

-- A quoted name behind its opening mark.
def quotedName (opening : Char) (cs : List Char) : Step Item :=
  let closing := closingQuote opening
  match quotedBody closing false false cs with
  | some (s, rest) => .ok (.token (.word (.ofList s) "" (some opening)), rest)
  | none =>
    .error ⟨"Expected close delimiter '" ++ .ofList [closing] ++ "' before EOF.", 0⟩

-- The word that begins with the given characters.
def word (d : Dialect) (start : List Char) (cs : List Char) : Item × List Char :=
  let (more, rest) := cs.span d.continuesName
  (.token (Token.ofWord (.ofList (start ++ more))), rest)

-- A word, unless it is all digits and points.
def wordOrNumber (d : Dialect) (start : List Char) (cs : List Char) : Item × List Char :=
  let (more, rest) := cs.span d.continuesName
  let chars := start ++ more
  let numeric (c : Char) : Bool := isAsciiDigit c || c == '.'
  if chars.all numeric then
    let (tail, rest) := rest.span numeric
    (.token (.number (.ofList (chars ++ tail)) false), rest)
  else (.token (Token.ofWord (.ofList chars)), rest)

-- Digits, with single underscores between them where the dialect has them.
def digitRun (separators : Bool) (isDigit : Char → Bool) : List Char → List Char × List Char
  | [] => ([], [])
  | c :: cs =>
    let separates := separators && c == '_' &&
      match cs with
      | next :: _ => isHexDigit next
      | [] => false
    if isDigit c || separates then
      let (ds, rest) := digitRun separators isDigit cs
      (c :: ds, rest)
    else ([], c :: cs)

-- The exponent of a number, if what follows is one.
def exponent (cs : List Char) : List Char × List Char :=
  match cs with
  | e :: cs' =>
    if e == 'e' || e == 'E' then
      let (sign, rest) := match cs' with
        | '+' :: r => (['+'], r)
        | '-' :: r => (['-'], r)
        | r => ([], r)
      match rest.span isAsciiDigit with
      | ([], _) => ([], cs)
      | (ds, rest) => (e :: sign ++ ds, rest)
    else ([], cs)
  | [] => ([], [])

def isWordToken : Option Token → Bool
  | some (.word ..) => true
  | _ => false

def isPeriod : Option Token → Bool
  | some (.symbol ".") => true
  | _ => false

def symbol (s : String) (rest : List Char) : Step Item := .ok (.token (.symbol s), rest)

def number (d : Dialect) (prev : Option Token) (cs : List Char) : Step Item :=
  match cs with
  | '.' :: '_' :: rest =>
    if isWordToken prev then symbol "." ('_' :: rest)
    else .error ⟨"Unexpected character '_'", 0⟩
  | _ =>
    let (whole, rest) := digitRun d.hasDigitSeparators isAsciiDigit cs
    match whole, rest with
    | ['0'], 'x' :: rest =>
      let (ds, rest) := digitRun d.hasDigitSeparators isHexDigit rest
      .ok (.token (.string .hex (.ofList ds)), rest)
    | _, _ =>
      let (point, rest) := match rest with
        | '.' :: r => (['.'], r)
        | r => ([], r)
      if whole.isEmpty && d.hasNumericNames && isWordToken prev then symbol "." rest
      else
        let (fraction, rest) := digitRun d.hasDigitSeparators isAsciiDigit rest
        let mantissa := whole ++ point ++ fraction
        if mantissa == ['.'] then symbol "." rest
        else
          let (power, rest) := exponent rest
          let digits := mantissa ++ power
          let (tail, rest') :=
            if d.hasNumericNames && power.isEmpty then rest.span d.continuesName else ([], rest)
          if !tail.isEmpty then .ok (.token (Token.ofWord (.ofList (digits ++ tail))), rest')
          else if d.hasNumericNames && !power.isEmpty && isPeriod prev then
            .ok (.token (Token.ofWord (.ofList digits)), rest)
          else match rest with
            | 'L' :: rest => .ok (.token (.number (.ofList digits) true), rest)
            | rest => .ok (.token (.number (.ofList digits) false), rest)

-- An operator that an operator of the user's own may begin with.
def operator (d : Dialect) (s : String) (rest : List Char) : Step Item :=
  match rest.span d.continuesOperator with
  | ([], rest) => symbol s rest
  | (more, rest) => .ok (.token (.custom (s ++ .ofList more)), rest)

def lineComment (d : Dialect) (lead : String) (cs : List Char) : Step Item :=
  let stops (c : Char) : Bool := c == '\n' || (d.isPostgresql && c == '\r')
  let (body, rest) := cs.span (!stops ·)
  .ok (.gap (lead ++ .ofList (body ++ rest.take 1)), rest.drop 1)

-- The rest behind a comment of which `depth` levels are open. `none` if it does not end.
def blockComment (nested : Bool) : Nat → List Char → Option (List Char × List Char)
  | _, [] => none
  | depth, '*' :: '/' :: cs =>
    if depth ≤ 1 then some ([], cs)
    else (blockComment nested (depth - 1) cs).map fun (s, rest) => ('*' :: '/' :: s, rest)
  | depth, '/' :: '*' :: cs =>
    if nested then
      (blockComment nested (depth + 1) cs).map fun (s, rest) => ('/' :: '*' :: s, rest)
    else (blockComment nested depth ('*' :: cs)).map fun (s, rest) => ('/' :: s, rest)
  | depth, c :: cs => (blockComment nested depth cs).map fun (s, rest) => (c :: s, rest)

-- A string between double dollars, behind the opening ones.
def doubleDollar : Bool → List Char → Option (List Char × List Char)
  | _, [] => none
  | true, '$' :: cs => some ([], cs)
  | true, c :: cs => (doubleDollar false cs).map fun (s, rest) => ('$' :: c :: s, rest)
  | false, '$' :: cs => doubleDollar true cs
  | false, c :: cs => (doubleDollar false cs).map fun (s, rest) => (c :: s, rest)

def isAlphanumeric (c : Char) : Bool := isLetter c || isAsciiDigit c

-- What a dollar sign begins; `cs` is the rest behind it.
def dollar (d : Dialect) (cs : List Char) : Step Item :=
  match cs with
  | '$' :: cs' =>
    if d.hasDollarParams then param cs
    else match doubleDollar false cs' with
      | some (s, rest) => .ok (.token (.dollar (.ofList s) none), rest)
      | none => .error ⟨"Unterminated dollar-quoted string", cs.length + 1⟩
  | _ => param cs
where
  param (cs : List Char) : Step Item :=
    let (tag, rest) := cs.span fun c =>
      isAlphanumeric c || c == '_' || (d.hasDollarParams && c == '$')
    match rest with
    | '$' :: rest' =>
      if d.hasDollarParams then .ok (.token (.placeholder (.ofList ('$' :: tag))), rest)
      else match splitAt? (('$' :: tag) ++ ['$']) rest' with
        | some (s, rest) =>
          .ok (.token (.dollar (.ofList s) (if tag.isEmpty then none else some (.ofList tag))), rest)
        | none => .error ⟨"Unterminated dollar-quoted, expected $", cs.length + 1⟩
    | rest => .ok (.token (.placeholder (.ofList ('$' :: tag))), rest)

-- The character with the given number; zero and surrogates are none.
def charOf? (n : Nat) : Option Char :=
  if n == 0 || !(n < 0xD800 || (0xE000 ≤ n && n < 0x110000)) then none else some (Char.ofNat n)

def exactly (n : Nat) (cs : List Char) : Option (List Char × List Char) :=
  let ds := cs.take n
  if ds.length == n && ds.all isHexDigit then some (ds, cs.drop n) else none

-- At most `n` characters of a class.
def atMost (n : Nat) (p : Char → Bool) (cs : List Char) : List Char × List Char :=
  let ds := (cs.take n).takeWhile p
  (ds, cs.drop ds.length)

def isOctal (c : Char) : Bool := '0' ≤ c && c ≤ '7'

-- The character that an escape in an `E` string stands for, behind the backslash.
def escapeInE (cs : List Char) : Option (Char × List Char) :=
  match cs with
  | [] => none
  | 'b' :: rest => some (Char.ofNat 8, rest)
  | 'f' :: rest => some (Char.ofNat 12, rest)
  | 'n' :: rest => some ('\n', rest)
  | 'r' :: rest => some ('\r', rest)
  | 't' :: rest => some ('\t', rest)
  | 'u' :: rest => do
    let (ds, rest) ← exactly 4 rest
    return (← charOf? (valueOf 16 ds), rest)
  | 'U' :: rest => do
    let (ds, rest) ← exactly 8 rest
    return (← charOf? (valueOf 16 ds), rest)
  | 'x' :: rest =>
    match atMost 2 isHexDigit rest with
    | ([], rest) => some ('x', rest)
    | (ds, rest) => do
      let n := valueOf 16 ds
      if n > 127 then none else return (← charOf? n, rest)
  | c :: rest =>
    if isOctal c then do
      let (ds, rest) := atMost 2 isOctal rest
      let n := valueOf 8 (c :: ds) % 256
      if n > 127 then none else return (← charOf? n, rest)
    else some (c, rest)

-- An `E` string behind its opening quote; the first argument bounds the characters.
def escapedBody : Nat → List Char → Option (List Char × List Char)
  | 0, _ | _, [] => none
  | n + 1, '\x27' :: cs =>
    match cs with
    | '\x27' :: rest => (escapedBody n rest).map fun (s, rest) => ('\x27' :: s, rest)
    | rest => some ([], rest)
  | n + 1, '\\' :: cs => do
    let (c, rest) ← escapeInE cs
    let (s, rest) ← escapedBody n rest
    return (c :: s, rest)
  | n + 1, c :: cs => (escapedBody n cs).map fun (s, rest) => (c :: s, rest)

-- A `U&` string behind its opening quote. The error says how much is left.
def unicodeBody : Nat → List Char → Except (String × Nat) (List Char × List Char)
  | 0, _ | _, [] => .error ("Unterminated unicode encoded string literal", 0)
  | n + 1, '\x27' :: cs =>
    match cs with
    | '\x27' :: rest => return (← unicodeBody n rest).map ('\x27' :: ·) id
    | rest => .ok ([], rest)
  | n + 1, '\\' :: '\\' :: cs => return (← unicodeBody n cs).map ('\\' :: ·) id
  | n + 1, '\\' :: '+' :: cs => code n 6 cs
  | n + 1, '\\' :: cs => code n 4 cs
  | n + 1, c :: cs => return (← unicodeBody n cs).map (c :: ·) id
where
  code (n digits : Nat) (cs : List Char) : Except (String × Nat) (List Char × List Char) :=
    match exactly digits cs with
    | none =>
      match (cs.take digits).find? (!isHexDigit ·) with
      | some c =>
        .error ("Invalid hex digit in escaped unicode string: " ++ .ofList [c],
          cs.length - ((cs.takeWhile isHexDigit).length + 1))
      | none => .error ("Unexpected EOF while parsing hex digit in escaped unicode string.", 0)
    | some (ds, rest) =>
      let v := valueOf 16 ds
      if v < 0xD800 || (0xE000 ≤ v && v < 0x110000) then
        return (← unicodeBody n rest).map (Char.ofNat v :: ·) id
      else
        .error ("Invalid unicode character: " ++ .ofList (Nat.toDigits 16 v), rest.length)

-- A string such as `q'[text]'`, behind its quote.
def delimitedBody (cs : List Char) : Option (List Char × List Char) :=
  match cs with
  | [] => none
  | c :: cs' =>
    let closing := match c with
      | '[' => ']'
      | '(' => ')'
      | '<' => '>'
      | '\x7b' => '\x7d'
      | c => c
    (splitAt? [closing, '\x27'] cs').map fun (s, rest) => (c :: s ++ [closing], rest)

def delimited (d : Dialect) (lead : List Char) (cs : List Char) : Step Item :=
  match cs with
  | '\x27' :: rest =>
    match delimitedBody rest with
    | some (s, rest) => .ok (.token (.delimited (.ofList lead) (.ofList s)), rest)
    | none => .error ⟨"Unterminated string literal", 0⟩
  | cs => .ok (word d lead cs)

-- Words that may turn out to introduce a string: the letter, then the rest.
def lettered? (d : Dialect) (c : Char) (cs : List Char) : Option (Step Item) :=
  let orString (options : List (Char × Quotation × Bool)) : Step Item :=
    match cs with
    | q :: rest =>
      match options.find? (·.1 == q) with
      | some (_, form, backslash) => quoted d q backslash 1 form rest
      | none => .ok (word d [c] cs)
    | [] => .ok (word d [c] cs)
  if (c == 'b' || c == 'B') && d.hasByteStrings then
    some (orString [('\x27', .singleByte, false), ('\x22', .doubleByte, false)])
  else if (c == 'r' || c == 'R') && d.hasRawStrings then
    some (orString [('\x27', .singleRaw, false), ('\x22', .doubleRaw, false)])
  else if c == 'n' || c == 'N' then
    match cs with
    | q :: rest =>
      if (q == 'q' || q == 'Q') && d.hasDelimitedStrings then some (delimited d [c, q] rest)
      else some (orString [('\x27', .national, d.escapesByBackslash)])
    | [] => some (orString [])
  else if (c == 'q' || c == 'Q') && d.hasDelimitedStrings then some (delimited d [c] cs)
  else if (c == 'e' || c == 'E') && d.hasEscapedStrings then
    match cs with
    | '\x27' :: rest =>
      some (match escapedBody (rest.length + 1) rest with
        | some (s, rest) => .ok (.token (.string .escaped (.ofList s)), rest)
        | none => .error ⟨"Unterminated encoded string literal", 0⟩)
    | _ => some (.ok (word d [c] cs))
  else if (c == 'u' || c == 'U') && d.hasUnicodeStrings then
    match cs with
    | '&' :: '\x27' :: rest =>
      some (match unicodeBody (rest.length + 1) rest with
        | .ok (s, rest) => .ok (.token (.string .unicode (.ofList s)), rest)
        | .error (text, left) => .error ⟨text, cs.length + 1 - left⟩)
    | _ => some (.ok (word d [c] cs))
  else if c == 'x' || c == 'X' then some (orString [('\x27', .hex, true)])
  else none

-- The symbols that begin with the character, or what else it begins.
def symbolic? (d : Dialect) (c : Char) (cs : List Char) : Option (Step Item) :=
  match c, cs with
  | '-', '-' :: rest =>
    let isComment := !d.needsBlankAfterDashes ||
      match rest with
      | b :: _ => isBlank b
      | [] => false
    some (if isComment then lineComment d "--" rest else operator d "-" cs)
  | '-', '>' :: '>' :: rest => some (operator d "->>" rest)
  | '-', '>' :: rest => some (operator d "->" rest)
  | '-', _ => some (operator d "-" cs)
  | '/', '*' :: rest =>
    some (match blockComment d.hasNestedComments 1 rest with
      | some (s, rest) => .ok (.gap ("/*" ++ .ofList s ++ "*/"), rest)
      | none => .error ⟨"Unexpected EOF while in a multi-line comment", cs.length + 1⟩)
  | '/', '/' :: rest => some (if d.hasIntegerDivision then symbol "//" rest else symbol "/" cs)
  | '/', _ => some (symbol "/" cs)
  | '%', b :: _ => some (if isBlank b then symbol "%" cs else operator d "%" cs)
  | '%', [] => some (symbol "%" cs)
  | '|', '/' :: rest => some (operator d "|/" rest)
  | '|', '|' :: '/' :: rest => some (operator d "||/" rest)
  | '|', '|' :: rest => some (operator d "||" rest)
  | '|', '&' :: '>' :: rest =>
    some (if d.hasGeometry then operator d "|&>" rest else operator d "|" cs)
  | '|', '>' :: '>' :: rest =>
    some (if d.hasGeometry then operator d "|>>" rest
      else if d.hasPipes then operator d "|>" ('>' :: rest) else operator d "|" cs)
  | '|', '>' :: rest =>
    some (if d.hasPipes && !d.hasGeometry then operator d "|>" rest else operator d "|" cs)
  | '|', _ => some (operator d "|" cs)
  | '=', '>' :: rest => some (symbol "=>" rest)
  | '=', '=' :: rest => some (symbol "==" rest)
  | '=', _ => some (symbol "=" cs)
  | '!', '=' :: rest => some (symbol "<>" rest)
  | '!', '!' :: rest => some (symbol "!!" rest)
  | '!', '~' :: '~' :: '*' :: rest => some (symbol "!~~*" rest)
  | '!', '~' :: '~' :: rest => some (symbol "!~~" rest)
  | '!', '~' :: '*' :: rest => some (symbol "!~*" rest)
  | '!', '~' :: rest => some (symbol "!~" rest)
  | '!', _ => some (symbol "!" cs)
  | '<', '=' :: '>' :: rest => some (operator d "<=>" rest)
  | '<', '=' :: rest => some (operator d "<=" rest)
  | '<', '>' :: rest => some (operator d "<>" rest)
  | '<', '<' :: '|' :: rest =>
    some (if d.hasGeometry then operator d "<<|" rest else operator d "<<" ('|' :: rest))
  | '<', '<' :: rest => some (operator d "<<" rest)
  | '<', '-' :: '>' :: rest =>
    some (if d.hasGeometry then operator d "<->" rest else operator d "<" cs)
  | '<', '^' :: rest =>
    some (if d.hasGeometry then operator d "<^" rest else operator d "<" cs)
  | '<', '@' :: rest => some (operator d "<@" rest)
  | '<', _ => some (operator d "<" cs)
  | '>', '=' :: rest => some (operator d ">=" rest)
  | '>', '>' :: rest => some (operator d ">>" rest)
  | '>', '^' :: rest =>
    some (if d.hasGeometry then operator d ">^" rest else operator d ">" cs)
  | '>', _ => some (operator d ">" cs)
  | ':', ':' :: rest => some (symbol "::" rest)
  | ':', '=' :: rest => some (symbol ":=" rest)
  | ':', _ => some (symbol ":" cs)
  | '&', '>' :: rest =>
    some (if d.hasGeometry then operator d "&>" rest else operator d "&" cs)
  | '&', '<' :: '|' :: rest =>
    some (if d.hasGeometry then operator d "&<|" rest else operator d "&" cs)
  | '&', '<' :: rest =>
    some (if d.hasGeometry then operator d "&<" rest else operator d "&" cs)
  | '&', '&' :: rest => some (operator d "&&" rest)
  | '&', _ => some (operator d "&" cs)
  | '^', '@' :: rest => some (symbol "^@" rest)
  | '^', _ => some (symbol "^" cs)
  | '~', '*' :: rest => some (operator d "~*" rest)
  | '~', '=' :: rest =>
    some (if d.hasGeometry then operator d "~=" rest else operator d "~" cs)
  | '~', '~' :: '*' :: rest => some (operator d "~~*" rest)
  | '~', '~' :: rest => some (operator d "~~" rest)
  | '~', _ => some (operator d "~" cs)
  | '#', _ =>
    if d.hasHashComments then some (lineComment d "#" cs)
    else match cs with
      | '-' :: rest => some (operator d "#-" rest)
      | '>' :: '>' :: rest => some (operator d "#>>" rest)
      | '>' :: rest => some (operator d "#>" rest)
      | ' ' :: _ => some (symbol "#" cs)
      | '#' :: rest =>
        if d.hasGeometry then some (operator d "##" rest)
        else if d.opensName '#' then some (.ok (wordOrNumber d ['#', '#'] rest))
        else some (operator d "#" cs)
      | b :: rest =>
        if d.opensName '#' then some (.ok (wordOrNumber d ['#', b] rest))
        else some (operator d "#" cs)
      | [] => some (operator d "#" cs)
  | '@', '-' :: '@' :: rest =>
    if d.hasGeometry then some (operator d "@-@" rest) else some (atWord '-' ('@' :: rest))
  | '@', '>' :: rest => some (operator d "@>" rest)
  | '@', '?' :: rest => some (operator d "@?" rest)
  | '@', '@' :: rest =>
    if d.hasGeometry then some (operator d "@@" rest)
    else match rest with
      | ' ' :: _ | [] => some (symbol "@@" rest)
      | b :: rest' =>
        if d.opensName '@' then some (.ok (wordOrNumber d ['@', '@', b] rest'))
        else some (symbol "@@" rest)
  | '@', ' ' :: _ | '@', '\x27' :: _ | '@', '\x22' :: _ | '@', '\x60' :: _ | '@', [] =>
    some (symbol "@" cs)
  | '@', b :: rest => some (atWord b rest)
  | '?', _ =>
    if d.hasGeometry then
      match cs with
      | '|' :: '|' :: rest => some (operator d "?||" rest)
      | '|' :: rest => some (symbol "?|" rest)
      | '&' :: rest => some (symbol "?&" rest)
      | '-' :: '|' :: rest => some (operator d "?-|" rest)
      | '-' :: rest => some (symbol "?-" rest)
      | '#' :: rest => some (operator d "?#" rest)
      | rest => some (symbol "?" rest)
    else
      let (ds, rest) := cs.span isAsciiDigit
      some (.ok (.token (.placeholder (.ofList ('?' :: ds))), rest))
  | _, _ =>
    if "(),+*;\\[]\x7b\x7d".toList.contains c then some (symbol (.ofList [c]) cs) else none
where
  atWord (b : Char) (rest : List Char) : Step Item :=
    if d.opensName '@' then .ok (wordOrNumber d ['@', b] rest) else symbol "@" (b :: rest)

-- The token at the start of a text that is not empty. `prev` is the token in front of it.
def scan (d : Dialect) (prev : Option Token) (c : Char) (cs : List Char) : Step Item :=
  if c == ' ' || c == '\t' || c == '\n' then .ok (.gap (.ofList [c]), cs)
  else if c == '\r' then
    match cs with
    | '\n' :: rest => .ok (.gap "\n", rest)
    | rest => .ok (.gap "\n", rest)
  else match lettered? d c cs with
    | some step => step
    | none =>
      if c == '\x27' then quoted d c d.escapesByBackslash 0 .single cs
      else if c == '\x22' && !d.opensQuotedName c then
        quoted d c d.escapesByBackslash 0 .double cs
      else if d.opensQuotedName c then quotedName c cs
      else if isAsciiDigit c || c == '.' then number d prev (c :: cs)
      else match symbolic? d c cs with
        | some step => step
        | none =>
          if d.opensName c then .ok (wordOrNumber d [c] cs)
          else if c == '$' then dollar d cs
          else if isBlank c then .ok (.gap " ", cs)
          else .ok (.token (.other c), cs)

-- The position behind the first `n` characters.
def advance (p : Position) : Nat → List Char → Position
  | 0, _ | _, [] => p
  | n + 1, c :: cs =>
    advance (if c == '\n' then ⟨p.line + 1, 1⟩ else ⟨p.line, p.column + 1⟩) n cs

-- All tokens of a text, the end of the text last. The first argument bounds the steps, of which
-- every character allows one.
def lexFrom (d : Dialect) : Nat → Option Token → Option (String × Position) → Position →
    List Char → Except Fault (List Lexeme)
  | _, _, gap, _, [] => .ok [⟨.eof, ⟨0, 0⟩, gap⟩]
  | 0, _, _, _, _ => .error .exhausted
  | n + 1, prev, gap, p, c :: cs =>
    match scan d prev c cs with
    | .error flaw => .error (.note flaw.text (some (advance p flaw.offset (c :: cs))))
    | .ok (item, rest) =>
      let p' := advance p (cs.length + 1 - rest.length) (c :: cs)
      match item with
      | .gap text => lexFrom d n none (gap.or (some (text, p))) p' rest
      | .token t => return ⟨t, p, gap⟩ :: (← lexFrom d n (some t) none p' rest)

def lex (d : Dialect) (text : String) : Except Fault (List Lexeme) :=
  let cs := text.toList
  lexFrom d (cs.length + 1) none none ⟨1, 1⟩ cs

end SqlLens.Sql.Lexer
