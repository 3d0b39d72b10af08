import Mathlib.Data.List.TakeWhile
import SqlLens.Error
import SqlLens.Node.Sql
import SqlLens.Proofs.Text.Numeral
import SqlLens.Proofs.Text.Search

namespace SqlLens

namespace Position

-- How a message about a text that is no SQL begins if it names a place.
def heading (p : Position) : String :=
  "Query parse error at line " ++ toString p.line ++ ", column " ++ toString p.column ++ ":"

def opening : String := "Query parse error"

def atLine : String := " at line "

def inColumn : String := ", column "

def lineMark : List Char := "Line: ".toList

def columnMark : List Char := ", Column: ".toList

-- The position that is spelled behind the mark of the line.
def ofRest? (rest : List Char) : Option Position := do
  let (line, rest) ← Text.splitAt? columnMark rest
  let line ← Text.number? line
  let column ← Text.number? (rest.takeWhile Text.isAsciiDigit)
  return ⟨line, column⟩

variable {p q : Position} {front before rest more : List Char} {c : Char} {n : Nat}
  {complaint : String}

theorem ofComplaint?_eq (complaint : String) : ofComplaint? complaint =
    (Text.splitAt? lineMark complaint.toList).bind fun (_, rest) => ofRest? rest := rfl

-- A number holds no blank, so the mark of the column does not begin inside it.
theorem splitAt?_columnMark (h : Text.number? before = some n) :
    Text.splitAt? columnMark (before ++ (columnMark ++ rest)) = some (before, rest) := by
  have solid : before.count ' ' = 0 := by
    refine List.count_eq_zero.mpr fun hb => ?_
    obtain e | e := Text.mem_of_number? h hb <;> revert e <;> decide
  refine (Text.splitAt?_eq_some_iff (by decide)).mpr ⟨rfl, fun inside => ?_⟩
  have blanks := inside.sublist.count_le ' '
  rw [List.dropLast_append_of_ne_nil (by decide), List.count_append, solid] at blanks
  revert blanks
  decide

theorem ofRest?_eq_some_iff : ofRest? rest = some p ↔ ∃ line after,
    rest = line ++ (columnMark ++ after) ∧ Text.number? line = some p.line ∧
      Text.number? (after.takeWhile Text.isAsciiDigit) = some p.column := by
  simp only [ofRest?, Option.bind_eq_bind, Option.bind_eq_some_iff, Prod.exists, Option.pure_def,
    Option.some.injEq]
  constructor
  case mp =>
    rintro ⟨line, after, split, l, hl, c, hc, rfl⟩
    exact ⟨line, after, ((Text.splitAt?_eq_some_iff (by decide)).mp split).1, hl, hc⟩
  case mpr =>
    rintro ⟨line, after, rfl, hl, hc⟩
    exact ⟨line, after, splitAt?_columnMark hl, p.line, hl, p.column, hc, rfl⟩

-- What begins like neither of the numbers nor the mark between them does not change the position.
theorem ofRest?_append (hc : c ∉ columnMark) (hs : c ≠ '+') (hd : Text.isAsciiDigit c = false) :
    ofRest? (rest ++ c :: more) = ofRest? rest := by
  have stops (after : List Char) : (after ++ c :: more).takeWhile Text.isAsciiDigit =
      after.takeWhile Text.isAsciiDigit := by
    rw [List.takeWhile_append, List.takeWhile_cons_of_neg (by simp [hd])]
    split
    case isTrue whole =>
      rw [List.append_nil]
      exact ((List.takeWhile_prefix _).eq_of_length whole).symm
    case isFalse => rfl
  ext p
  rw [ofRest?_eq_some_iff, ofRest?_eq_some_iff]
  constructor
  case mp =>
    rintro ⟨line, after, e, hl, hn⟩
    rw [← List.append_assoc, List.append_eq_append_iff] at e
    obtain ⟨_ | ⟨d, extra⟩, e, e'⟩ | ⟨after', rfl, rfl⟩ := e
    · rw [List.append_nil] at e
      obtain rfl : c :: more = after := e'
      exact ⟨line, [], by simp [← e], hl, stops [] ▸ hn⟩
    · -- Such a character is in neither of the parts that would reach beyond the text.
      obtain ⟨rfl, _⟩ := List.cons.inj e'
      have inside : c ∈ line ++ columnMark := by simp [e]
      obtain inside | inside := List.mem_append.mp inside
      · have := Text.mem_of_number? hl inside
        simp_all
      · exact absurd inside hc
    · exact ⟨line, after', List.append_assoc _ _ _, hl, stops after' ▸ hn⟩
  case mpr =>
    rintro ⟨line, after, rfl, hl, hn⟩
    exact ⟨line, after ++ c :: more, by simp, hl, (stops after).symm ▸ hn⟩

-- The word in front of the mark does not help to spell another mark.
theorem splitAt?_lineMark (silent : ¬lineMark <:+: front) :
    Text.splitAt? lineMark (front ++ "at ".toList ++ (lineMark ++ rest)) =
      some (front ++ "at ".toList, rest) := by
  refine (Text.splitAt?_eq_some_iff (by decide)).mpr ⟨rfl, ?_⟩
  have chars : "at ".toList ++ lineMark.dropLast = ['a', 't', ' ', 'L', 'i', 'n', 'e', ':'] := rfl
  have snoc : front ++ ['a', 't', ' ', 'L', 'i', 'n', 'e', ':'] =
      front ++ ['a'] ++ ['t'] ++ [' '] ++ ['L'] ++ ['i'] ++ ['n'] ++ ['e'] ++ [':'] := by simp
  have reversed : lineMark.reverse = [' ', ':', 'e', 'n', 'i', 'L'] := rfl
  rw [List.dropLast_append_of_ne_nil (by decide), List.append_assoc, chars, snoc]
  simp only [List.infix_concat_iff, silent, or_false, ← List.reverse_prefix, List.reverse_append]
  simp [reversed]

theorem ofRest?_digits {line column : Nat} (hl : line < Text.numberLimit)
    (hc : column < Text.numberLimit) :
    ofRest? (Nat.toDigits 10 line ++ (columnMark ++ Nat.toDigits 10 column)) =
      some ⟨line, column⟩ := by
  have run : (Nat.toDigits 10 column).takeWhile Text.isAsciiDigit = Nat.toDigits 10 column :=
    List.takeWhile_eq_self_iff.mpr fun _ => Text.isAsciiDigit_of_mem_toDigits
  refine ofRest?_eq_some_iff.mpr ⟨_, _, rfl, Text.number?_toDigits hl, ?_⟩
  rw [run]
  exact Text.number?_toDigits hc

theorem toList_toString (n : Nat) : (toString n).toList = Nat.toDigits 10 n := Nat.toList_repr

-- Behind a text that does not begin to mention a place, the place is found as it is written. Behind
-- any other text, what is found is found in the text.
theorem ofComplaint?_append_positionText (text : String) (hl : p.line < Text.numberLimit)
    (hc : p.column < Text.numberLimit) :
    ofComplaint? (text ++ Sql.positionText p) =
      if lineMark <:+: text.toList ++ [' '] then ofComplaint? (text ++ " ") else some p := by
  have words : Sql.positionText p = " " ++ ("at " ++ String.ofList lineMark) ++ toString p.line ++
      String.ofList columnMark ++ toString p.column := rfl
  have spelled : (text ++ Sql.positionText p).toList = text.toList ++ [' '] ++ "at ".toList ++
      (lineMark ++ (Nat.toDigits 10 p.line ++ (columnMark ++ Nat.toDigits 10 p.column))) := by
    rw [words]
    simp only [String.toList_append, String.toList_ofList, toList_toString, List.append_assoc]
    rfl
  rw [ofComplaint?_eq, ofComplaint?_eq, spelled, String.toList_append]
  split
  case isFalse silent =>
    rw [splitAt?_lineMark silent, Option.bind_some]
    exact ofRest?_digits hl hc
  case isTrue begun =>
    have blank : " ".toList = [' '] := rfl
    rw [blank]
    cases h : Text.splitAt? lineMark (text.toList ++ [' '])
    case none => exact absurd begun (Text.splitAt?_eq_none_iff.mp h)
    case some x =>
      obtain ⟨before, rest⟩ := x
      rw [List.append_assoc, Text.splitAt?_append (by decide) h]
      exact ofRest?_append (by decide) (by decide) (by decide)

theorem heading_eq (p : Position) : p.heading = opening ++ (atLine ++ (toString p.line ++
    (inColumn ++ (toString p.column ++ ":")))) := by
  have words : p.heading =
      opening ++ atLine ++ toString p.line ++ inColumn ++ toString p.column ++ ":" := rfl
  rw [words]
  simp only [String.append_assoc]

theorem heading_append_inj {s s' : String} (h : p.heading ++ s = q.heading ++ s') : p = q := by
  have comma : inColumn.toList = ',' :: " column ".toList := rfl
  have colon : ":".toList = [':'] := rfl
  rw [heading_eq, heading_eq] at h
  simp only [String.append_assoc, String.append_right_inj] at h
  have h := congrArg String.toList h
  simp only [String.toList_append, toList_toString, comma, colon, List.cons_append] at h
  obtain ⟨line, h⟩ := Text.toDigits_append_inj (by decide) (by decide) h
  simp only [List.cons.injEq, List.append_cancel_left_eq, true_and, List.nil_append] at h
  obtain ⟨column, _⟩ := Text.toDigits_append_inj (by decide) (by decide) h
  cases p
  cases q
  exact congrArg₂ mk line column

end Position

namespace Error

open Position

variable {p : Position} {complaint : String}

theorem message_query (complaint : String) : (query complaint).message =
    match ofComplaint? complaint with
    | some p => p.heading ++ ("\n  " ++ complaint)
    | none => opening ++ (":\n  " ++ complaint) := by
  have words : (query complaint).message =
      match ofComplaint? complaint with
      | some p => opening ++ atLine ++ toString p.line ++ inColumn ++ toString p.column ++
          (":" ++ "\n  ") ++ complaint
      | none => opening ++ ":\n  " ++ complaint := rfl
  rw [words]
  cases ofComplaint? complaint
  case none => exact String.append_assoc ..
  case some p => simp only [heading_eq, String.append_assoc]

theorem exists_message_eq_append (complaint : String) :
    ∃ front, (query complaint).message = front ++ complaint := by
  rw [message_query]
  cases ofComplaint? complaint
  case none => exact ⟨opening ++ ":\n  ", (String.append_assoc ..).symm⟩
  case some p => exact ⟨p.heading ++ "\n  ", (String.append_assoc ..).symm⟩

-- A message begins with the position that is found in the complaint, and with no other.
theorem exists_message_eq_heading_iff :
    (∃ rest, (query complaint).message = p.heading ++ rest) ↔ ofComplaint? complaint = some p := by
  rw [message_query]
  cases ofComplaint? complaint
  case none =>
    simp only [reduceCtorEq, iff_false, not_exists]
    intro rest h
    rw [heading_eq] at h
    simp only [String.append_assoc, String.append_right_inj] at h
    have h := congrArg String.toList h
    rw [String.toList_append, String.toList_append] at h
    exact absurd (List.cons.inj h).1 (by decide)
  case some q =>
    simp only [Option.some.injEq]
    constructor
    case mp =>
      rintro ⟨rest, h⟩
      exact heading_append_inj h
    case mpr =>
      rintro rfl
      exact ⟨_, rfl⟩

-- The message holds the whole complaint. It begins with the place that the complaint ends with
-- unless the text in front of that place, with the blank behind it, holds the mark of a line; then
-- it begins with that place only if the text spells the very same one.
theorem query_message_located_iff (text : String) (p : Position) (hl : p.line < Text.numberLimit)
    (hc : p.column < Text.numberLimit) :
    (∃ front, (query (text ++ Sql.positionText p)).message =
      front ++ (text ++ Sql.positionText p)) ∧
    ((∃ rest, (query (text ++ Sql.positionText p)).message = p.heading ++ rest) ↔
      ("Line: ".toList <:+: text.toList ++ [' '] → ofComplaint? (text ++ " ") = some p)) := by
  constructor
  case left => exact exists_message_eq_append _
  case right =>
    rw [exists_message_eq_heading_iff, ofComplaint?_append_positionText text hl hc]
    change _ ↔ (lineMark <:+: _ → _)
    split
    case isTrue begun => simp only [begun, forall_const]
    case isFalse silent => simp only [silent, false_imp_iff]

theorem query_message_located_iff_line :
    ∃ rest, (query ("sql parser error: Expected: end of statement, found: Line" ++
      Sql.positionText ⟨3, 14⟩)).message = Position.heading ⟨3, 14⟩ ++ rest := by
  refine (query_message_located_iff _ ⟨3, 14⟩ (by decide) (by decide)).right.mpr fun begun => ?_
  revert begun
  decide +kernel

-- A string in the text of the user is quoted in the complaint, and what it spells is taken for the
-- place.
theorem query_message_misled :
    Node.ofSql .generic "SELECT a b 'Line: 7, Column: 9'" = .error (.query
      ("sql parser error: Expected: end of statement, found: 'Line: 7, Column: 9'" ++
        Sql.positionText ⟨1, 12⟩)) ∧
    ¬∃ rest, (query ("sql parser error: Expected: end of statement, found: 'Line: 7, Column: 9'" ++
      Sql.positionText ⟨1, 12⟩)).message = Position.heading ⟨1, 12⟩ ++ rest := by
  constructor
  case left =>
    have refused : (match Node.ofSql .generic "SELECT a b 'Line: 7, Column: 9'" with
        | .error e => some e
        | .ok _ => none) = some (query
          ("sql parser error: Expected: end of statement, found: 'Line: 7, Column: 9'" ++
            Sql.positionText ⟨1, 12⟩)) := by decide +kernel
    cases h : Node.ofSql .generic "SELECT a b 'Line: 7, Column: 9'"
    case ok S => simp [h] at refused
    case error e =>
      rw [h] at refused
      exact congrArg Except.error (Option.some.inj refused)
  case right =>
    rw [exists_message_eq_heading_iff]
    decide +kernel

end Error

end SqlLens
