import SqlLens.Proofs.Sql.Lexing
import SqlLens.Proofs.Sql.Operand
import SqlLens.Sql.ToNode

namespace SqlLens.Sql

open SqlLens.Sql.Parser SqlLens.Sql.Lexer

section Casing

variable {c : Char} {cs before : List Char} {name : String}

theorem casing_of_continuesPlain (h : Render.continuesPlain c) :
    Text.isAscii c ∧ c.toNat ≠ 931 ∧ Text.lowerAscii c = c ∧
      Text.lowerAscii (Text.upperAscii c) = c := by
  have small : c.toNat < 128 := by
    simp only [Render.continuesPlain, Render.isLowercase, Text.isAsciiDigit, Bool.or_eq_true,
      Bool.and_eq_true, decide_eq_true_eq, beq_iff_eq, Char.le_def, UInt32.le_iff_toNat_le] at h
    obtain ((⟨_, h⟩ | ⟨_, h⟩) | rfl) | rfl := h
    case inl.inl.inl => exact Nat.lt_of_le_of_lt h (by decide)
    case inl.inl.inr => exact Nat.lt_of_le_of_lt h (by decide)
    all_goals decide
  have table : ∀ i < 128, Render.continuesPlain (.ofNat i) →
      Text.isAscii (.ofNat i) ∧ (Char.ofNat i).toNat ≠ 931 ∧ Text.lowerAscii (.ofNat i) = .ofNat i ∧
        Text.lowerAscii (Text.upperAscii (.ofNat i)) = .ofNat i := by decide
  have := table c.toNat small
  rw [Char.ofNat_toNat] at this
  exact this h

theorem lowerFrom_plain (h : ∀ c ∈ cs, Render.continuesPlain c) :
    Text.lowerFrom before cs = cs := by
  induction cs generalizing before
  case nil => rfl
  case cons c cs hi =>
    have ⟨hc, hcs⟩ := List.forall_mem_cons.mp h
    have ⟨ascii, notSigma, lower, _⟩ := casing_of_continuesPlain hc
    have sigma : (c.toNat == 931) = false := beq_eq_false_iff_ne.mpr notSigma
    simp [Text.lowerFrom, sigma, Text.lowerChar, ascii, lower, hi hcs]

theorem continuesPlain_of_isPlain (h : Render.isPlain name) :
    ∀ c ∈ name.toList, Render.continuesPlain c := by
  unfold Render.isPlain at h
  split at h
  case h_1 => cases h
  case h_2 c cs e =>
    simp only [Bool.and_eq_true, List.all_eq_true] at h
    rw [e]
    refine List.forall_mem_cons.mpr ⟨?_, h.1.2⟩
    have := h.1.1
    simp only [Render.startsPlain, Render.continuesPlain, Bool.or_eq_true] at this ⊢
    tauto

theorem not_reserved_of_isPlain (h : Render.isPlain name) :
    Render.reservedWords.contains name = false := by
  unfold Render.isPlain at h
  split at h
  case h_1 => cases h
  case h_2 =>
    simp only [Bool.and_eq_true, Bool.not_eq_true'] at h
    exact h.2

theorem lower_of_isPlain (h : Render.isPlain name) : Text.lower name = name := by
  rw [Text.lower, lowerFrom_plain (continuesPlain_of_isPlain h), String.ofList_toList]

theorem asciiLower_asciiUpper_of_isPlain (h : Render.isPlain name) :
    Text.asciiLower (Text.asciiUpper name) = name := by
  have each : name.toList.map (Text.lowerAscii ∘ Text.upperAscii) = name.toList.map id :=
    List.map_congr_left fun c hc =>
      (casing_of_continuesPlain (continuesPlain_of_isPlain h c hc)).2.2.2
  rw [Text.asciiLower, Text.asciiUpper, String.toList_ofList, List.map_map, each, List.map_id,
    String.ofList_toList]

-- Keywords that begin something else than a name wherever an operand may stand. Names that are one
-- of them are quoted.
def formWords : List String :=
  ["ALL", "AND", "ANY", "ARRAY", "CASE", "CAST", "CURRENT_CATALOG", "CURRENT_DATE", "CURRENT_TIME",
    "CURRENT_TIMESTAMP", "CURRENT_USER", "FALSE", "LOCALTIME", "LOCALTIMESTAMP", "NOT", "NULL",
    "OR", "SELECT", "SESSION_USER", "SOME", "TABLE", "TRUE", "USER", "WITH"]

theorem keyword_nameToken (name : String) : (nameToken name).keyword ∉ formWords := by
  unfold nameToken
  split
  case isTrue plain =>
    intro h
    have all : formWords.all (Render.reservedWords.contains <| Text.asciiLower ·) := by
      decide +kernel
    have reserved := List.all_eq_true.mp all _ h
    have word : (Token.ofWord name).keyword = Text.asciiUpper name := rfl
    rw [word, asciiLower_asciiUpper_of_isPlain plain, not_reserved_of_isPlain plain] at reserved
    cases reserved
  case isFalse => exact (by decide : "" ∉ formWords)

theorem keyword_nameToken_of_subset {ks : List String} (h : ks.all (formWords.contains ·))
    (name : String) : ks.contains (nameToken name).keyword = false := by
  cases e : ks.contains (nameToken name).keyword
  case false => rfl
  case true =>
    have form := List.all_eq_true.mp h _ (List.contains_iff_mem.mp e)
    exact absurd (List.contains_iff_mem.mp form) (keyword_nameToken name)

end Casing

-- The token is a name in every place: a word that begins nothing else.
structure Token.Names (t : Token) (id : Ident) : Prop where
  word : ∃ keyword, t = .word id.text keyword id.quote
  plain : t.keyword ∉ formWords
  free : t.keyword ∉ Words.nameStops

theorem exists_ident (name : String) : ∃ id : Ident, ∃ keyword,
    nameToken name = .word id.text keyword id.quote ∧ id.folded = name := by
  by_cases bare : Render.isPlain name
  case pos => exact ⟨⟨name, none⟩, _, if_pos bare, lower_of_isPlain bare⟩
  case neg => exact ⟨⟨name, some '\x22'⟩, _, if_neg bare, rfl⟩

section Quiet

variable {depth : Nat} {l l' : Lexeme} {ls rest : List Lexeme} {r : Rules} {t : Token}
  {k s : String}

-- What may stand behind a name: what follows an operand, or a point.
def quietStops : List String := "." :: followStops

def Token.quiet (t : Token) : Bool := t.isAmong quietStops

theorem Token.literal_of_quiet (ht : t.quiet) : Literal.ofToken? t = none := by
  cases t
  case eof | word | symbol => rfl
  all_goals cases ht

variable (hl : l.token.quiet)

include hl

theorem stops_quiet (ls : List Lexeme) : Stops quietStops (l :: ls) := ⟨l, ls, rfl, hl⟩

theorem fails_quiet_literal : Fails literal depth (l :: ls) := by
  have no (k : String) (hk : k ∉ "" :: quietStops) : (l.token.keyword == k) = false :=
    Token.isKeyword_of_isAmong hl hk
  have ⟨rest, taken⟩ := exists_next depth l ls
  refine .bind_right taken ?_
  split
  case h_1 text k q e =>
    obtain rfl : q = none := by
      rw [e] at hl
      cases q
      case none => rfl
      case some => cases hl
    simp only [e, Token.keyword] at no
    simp only [no "TRUE" (by decide), no "FALSE" (by decide), no "NULL" (by decide)]
    exact fails_expectedAt _ _
  case h_2 e | h_3 e =>
    rw [e] at hl
    cases hl
  case h_4 e | h_5 e =>
    rw [e] at hl
    exact absurd hl (by decide)
  case h_6 =>
    rw [Token.literal_of_quiet hl]
    exact fails_expectedAt _ _

theorem yields_quiet_size : Yields size? depth (l :: ls) none (l :: ls) :=
  ((stops_quiet hl ls).no_symbol (by decide)).bind .pure

theorem yields_quiet_sizeText : Yields optionalSize depth (l :: ls) "" (l :: ls) :=
  (yields_quiet_size hl).bind .pure

theorem yields_quiet_digits : Yields optionalDigits depth (l :: ls) "" (l :: ls) :=
  ((stops_quiet hl ls).no_symbol (by decide)).bind .pure

theorem yields_quiet_length : Yields optionalLength depth (l :: ls) "" (l :: ls) :=
  ((stops_quiet hl ls).no_symbol (by decide)).bind .pure

theorem yields_quiet_unsigned : Yields optionalUnsigned depth (l :: ls) "" (l :: ls) := by
  have suffix : Yields signSuffix depth (l :: ls) true (l :: ls) := rfl
  exact suffix.bind (((stops_quiet hl ls).no_keyword (by decide)).bind .pure)

theorem yields_quiet_timeZone : Yields timeZone depth (l :: ls) "" (l :: ls) :=
  ((stops_quiet hl ls).no_keyword (by decide)).bind
    (((stops_quiet hl ls).no_keyword (by decide)).bind .pure)

end Quiet

section Types

variable {α β : Type} {p : Parser α} {q : α → Parser β} {a : α} {b : β} {depth : Nat}
  {l l' : Lexeme} {ls mid : List Lexeme} {r : Rules} {k : String}

-- The parser fails or gives a result of which something is known.
def Ends (p : Parser α) (depth : Nat) (ls : List Lexeme) (P : α → List Lexeme → Prop) : Prop :=
  Fails p depth ls ∨ ∃ a rest, Yields p depth ls a rest ∧ P a rest

namespace Ends

variable {P : α → List Lexeme → Prop} {Q : β → List Lexeme → Prop}

theorem bind (h : Yields p depth ls a mid) (h' : Ends (q a) depth mid Q) :
    Ends (p >>= q) depth ls Q := by
  cases h'
  case inl fails => exact .inl (.bind_right h fails)
  case inr h' =>
    have ⟨b, rest, h', hb⟩ := h'
    exact .inr ⟨b, rest, h.bind h', hb⟩

theorem pure (h : P a ls) : Ends (pure a) depth ls P := .inr ⟨a, ls, .pure, h⟩

theorem fails (h : Fails p depth ls) : Ends (p >>= q) depth ls Q := .inl h.bind_left

end Ends

-- Nothing is taken, or the word is taken as the whole of a type.
def TakenAsType (l l' : Lexeme) (ls : List Lexeme) :
    Option (TypeKind × DataType × Bool) → List Lexeme → Prop
  | none, rest => rest = l :: l' :: ls
  | some (kind, _, closed), rest =>
    kind ≠ .interval ∧ kind ≠ .custom ∧ closed = false ∧ rest = l' :: ls

theorem keywordType?_ends (hl : l.token.isWord) (hl' : l'.token.quiet) (hk : k ∉ formWords)
    (hstop : k ∉ Words.nameStops) :
    Ends (keywordType? r k) depth (l :: l' :: ls) (TakenAsType l l' ls) := by
  have more : l.token.isEof = false := by
    cases e : l.token <;> simp_all [Token.isWord, Token.isEof]
  have taken : Yields skip depth (l :: l' :: ls) () (l' :: ls) := yields_skip more
  unfold keywordType?
  refine .bind yields_dialect ?_
  dsimp only
  have size : Yields optionalSize depth (l' :: ls) "" (l' :: ls) := yields_quiet_sizeText hl'
  have digits : Yields optionalDigits depth (l' :: ls) "" (l' :: ls) := yields_quiet_digits hl'
  have length : Yields optionalLength depth (l' :: ls) "" (l' :: ls) := yields_quiet_length hl'
  have unsigned : Yields optionalUnsigned depth (l' :: ls) "" (l' :: ls) :=
    yields_quiet_unsigned hl'
  have zone : Yields timeZone depth (l' :: ls) "" (l' :: ls) := yields_quiet_timeZone hl'
  have suffix : Yields signSuffix depth (l' :: ls) true (l' :: ls) := rfl
  have no {k : String} (hk : k ∉ "" :: quietStops) :
      Yields (keyword? k) depth (l' :: ls) false (l' :: ls) := (stops_quiet hl' ls).no_keyword hk
  have opening : Fails (expectSymbol "(") depth (l' :: ls) :=
    (stops_quiet hl' ls).fails_symbol (by decide)
  have builtin {t : DataType} : TakenAsType l l' ls (some (.builtin, t, false)) (l' :: ls) :=
    ⟨nofun, nofun, rfl, rfl⟩
  split
  · exact .bind taken (.pure builtin)
  split
  · exact .bind taken (.bind size (.bind (no (by decide)) (.bind suffix (.bind (no (by decide))
      (.pure builtin)))))
  split
  · exact .bind taken (.bind size (.pure builtin))
  split
  · refine .bind taken (.bind digits ?_)
    split
    · exact .bind unsigned (.pure builtin)
    · exact .pure builtin
  have enclosed {α : Type} {p : Parser α} : Fails (parenthesized p) depth (l' :: ls) :=
    opening.bind_left
  split
  case h_1 => exact .bind taken (.bind unsigned (.pure builtin))
  case h_2 =>
    exact .bind taken (.bind (no (by decide)) (.bind digits (.bind unsigned (.pure builtin))))
  case h_3 | h_4 | h_5 => exact .bind taken (.bind length (.pure builtin))
  case h_6 | h_7 =>
    exact .bind taken (.bind (no (by decide)) (.bind ((stops_quiet hl' ls).no_keywords (by decide))
      (.bind length (.pure builtin))))
  case h_8 => exact .bind taken (.bind size (.pure ⟨nofun, nofun, rfl, rfl⟩))
  case h_9 => exact .bind taken (.bind (no (by decide)) (.bind size (.pure builtin)))
  case h_10 | h_17 => exact .bind taken (.fails opening)
  case h_11 | h_12 => exact .bind taken (.bind size (.bind zone (.pure builtin)))
  case h_13 | h_14 | h_15 => exact .bind taken (.bind size (.pure builtin))
  case h_18 | h_19 => exact .bind taken (.fails enclosed)
  case h_16 | h_21 => exact absurd (by decide) hstop
  case h_20 | h_26 | h_27 => exact absurd (by decide) hk
  case h_22 | h_23 => exact .bind taken (.fails (Fails.bind_left enclosed))
  case h_24 => exact .bind taken (.fails opening)
  case h_25 => exact .bind taken (.fails enclosed)
  case h_28 | h_29 => exact .bind taken (.bind (no (by decide)) (.pure builtin))
  case h_30 | h_31 => exact .bind taken (.pure builtin)
  case h_32 =>
    split
    · exact .bind taken (.pure builtin)
    · exact .pure rfl

-- A name is not the type of a literal.
theorem fails_typedLiteral_name {id : Ident} (hn : l.token.Names id) (hl' : l'.token.quiet)
    (hc : Fails customType depth (l :: l' :: ls) ∨
      ∃ type l'' rest, Yields customType depth (l :: l' :: ls) type (l'' :: rest) ∧
        l''.token ≠ .symbol "[") :
    Fails (typedLiteral r) depth (l :: l' :: ls) := by
  have word : l.token.isWord := by
    have ⟨_, e⟩ := hn.word
    rw [e]
    rfl
  have unbracketed : l'.token.isSymbol "[" = false := Token.isSymbol_of_isAmong hl' (by decide)
  have literals : Fails literal depth (l' :: ls) := fails_quiet_literal hl'
  have ends : Ends (keywordType? r l.token.keyword) depth (l :: l' :: ls) (TakenAsType l l' ls) :=
    keywordType?_ends word hl' hn.plain hn.free
  cases ends
  case inl fails =>
    have read : Fails (readType r) depth (l :: l' :: ls) := by
      refine .bind_right yields_lexeme ?_
      rw [word]
      exact .bind_left fails.bind_left
    exact read.bind_left
  case inr h =>
    have ⟨found, rest, h, hfound⟩ := h
    cases found
    case none => exact fails_typedLiteral_of_customType word (hfound ▸ h) hc
    case some found =>
      obtain ⟨kind, type, closed⟩ := found
      obtain ⟨interval, custom, rfl, rfl⟩ := hfound
      have read : Yields (readType r) depth (l :: l' :: ls) (kind, type, false) (l' :: ls) := by
        refine yields_lexeme.bind ?_
        rw [word]
        refine .bind (h.bind .pure) (yields_dialect.bind ?_)
        exact yields_repeated_none ((yields_no_symbol unbracketed).bind .pure)
      refine .bind_right read (.bind_right .pure ?_)
      cases kind
      case interval => exact absurd rfl interval
      case custom => exact absurd rfl custom
      case builtin => exact literals.bind_left
      case binary => exact .bind_right yields_dialect literals.bind_left

end Types

section Forms

variable {depth : Nat} {l l' : Lexeme} {ls : List Lexeme} {r : Rules} {k : String} {id : Ident}

theorem keywordForm?_ends (hl : l.token.quiet) (hk : k ∉ formWords) (hstop : k ∉ Words.nameStops) :
    Ends (keywordForm? r id k) depth (l :: ls) fun found rest => found = none ∧ rest = l :: ls := by
  have opening : Fails (expectSymbol "(") depth (l :: ls) :=
    (stops_quiet hl ls).fails_symbol (by decide)
  have literals : Fails literal depth (l :: ls) := fails_quiet_literal hl
  unfold keywordForm?
  refine .bind yields_dialect ?_
  have peek (s : String) (hs : s ∉ quietStops) :
      Yields (peekSymbol s) depth (l :: ls) false (l :: ls) :=
    (stops_quiet hl ls).no_peekSymbol hs
  split
  case h_14 | h_15 | h_17 | h_18 | h_20 | h_21 | h_22 | h_24 | h_25 | h_26 =>
    exact .fails opening.bind_left
  case h_19 | h_27 | h_28 | h_32 => exact absurd (by decide) hstop
  case h_23 | h_34 => exact .bind (peek _ (by decide)) (.pure ⟨rfl, rfl⟩)
  case h_31 =>
    have columns : Fails (columnList true false name) depth (l :: ls) :=
      .bind_right ((stops_quiet hl ls).no_symbol (by decide))
        (.bind_right yields_lexeme (fails_expectedAt _ _))
    exact .fails columns.bind_left
  case h_33 => exact .bind yields_get (.pure ⟨rfl, rfl⟩)
  case h_35 =>
    split
    · exact .fails literals.bind_left
    · exact .pure ⟨rfl, rfl⟩
  all_goals exact absurd (by decide) hk

theorem yields_nameExpr (hl : l.token.quiet) :
    Yields (nameExpr r id) depth (l :: ls) (.ident id) (l :: ls) := by
  refine yields_dialect.bind (yields_token.bind ?_)
  split
  case h_1 e =>
    rw [e] at hl
    exact absurd hl (by decide)
  case h_3 e =>
    rw [e] at hl
    cases hl
  all_goals exact .pure

-- A word that goes on with neither a type nor a form is a name.
theorem yields_prefixExpr_name (hn : l.token.Names id) (hl' : l'.token.quiet)
    (hc : Fails customType depth (l :: l' :: ls) ∨
      ∃ type l'' rest, Yields customType depth (l :: l' :: ls) type (l'' :: rest) ∧
        l''.token ≠ .symbol "[") :
    Yields (prefixExpr r) depth (l :: l' :: ls) (.ident id) (l' :: ls) := by
  have untyped : Fails (typedLiteral r) depth (l :: l' :: ls) := fails_typedLiteral_name hn hl' hc
  have named : Yields (nameExpr r id) depth (l' :: ls) (.ident id) (l' :: ls) := yields_nameExpr hl'
  have ⟨keyword, e⟩ := hn.word
  have shown : (if id.quote.isNone then keyword else "") = l.token.keyword := by
    rw [e]
    cases id.quote <;> rfl
  refine yields_prefixExpr_word e untyped ?_
  rw [shown]
  have ends : Ends (keywordForm? r id l.token.keyword) depth (l' :: ls)
      fun found rest => found = none ∧ rest = l' :: ls :=
    keywordForm?_ends hl' hn.plain hn.free
  cases ends
  case inl fails =>
    have ⟨f, failed⟩ := fails.exists_attempt'
    have stop : Yields (isNameStop l.token.keyword) depth (l' :: ls) false (l' :: ls) := by
      have free : Words.nameStops.contains l.token.keyword = false := by simpa using hn.free
      have other : Dialect.generic.isPostgresql = false := rfl
      refine yields_dialect.bind ?_
      simp only [free, other, Bool.and_false, Bool.false_eq_true, if_false]
      exact .pure
    exact failed.bind (stop.bind (named.attempt'.bind .pure))
  case inr h =>
    obtain ⟨_, _, h, rfl, rfl⟩ := h
    exact h.attempt'.bind named

end Forms

end SqlLens.Sql
