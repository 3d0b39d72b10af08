import Mathlib.Tactic.FinCases
import SqlLens.Proofs.Sql.Parsing

namespace SqlLens.Sql

open SqlLens.Sql.Parser

section Stops

-- Whether the token is the end of the text, one of the symbols or one of the bare words.
def Token.isAmong (stops : List String) : Token → Bool
  | .eof => true
  | .symbol s => stops.contains s
  | .word _ k none => stops.contains k && k.toList.all Text.isAsciiLetter
  | _ => false

-- The symbols that are written between two operands.
def infixSymbols : List String :=
  ["=", "<>", "<", "<=", ">", ">=", "<=>", ":=", "~", "~*", "!~", "!~*", "~~", "~~*", "!~~", "!~~*",
    "|", "^", "<<", ">>", "&", "+", "-", "*", "/", "//", "%", "||", "^@", "->", "->>", "#>", "#>>",
    "@>", "<@", "#-", "@?", "@@"]

def signSymbols : List String := ["-", "+", "~"]

-- Words that go on with the operand in front of them.
def operatorWords : List String :=
  ["AND", "OR", "XOR", "OVERLAPS", "IS", "IN", "NOT", "BETWEEN", "LIKE", "ILIKE", "AT"]

-- What ends an expression: the end of what is around it, or the next clause.
def clauseStops : List String :=
  [")", ",", ";", "AS", "FROM", "WHERE", "GROUP", "HAVING", "ORDER", "LIMIT", "OFFSET", "UNION",
    "EXCEPT", "INTERSECT", "FOR", "JOIN", "LEFT", "RIGHT", "FULL", "CROSS", "NATURAL", "SEMI", "ANTI",
    "INNER", "OUTER", "ASC", "DESC", "NULLS", "TO", "STEP", "WHEN", "THEN", "ELSE", "END"]

def followStops : List String := infixSymbols ++ operatorWords ++ clauseStops

-- Whether the token may stand behind an operand.
def Token.follows (t : Token) : Bool := t.isAmong followStops

-- What comes next is the end of the text, one of the symbols or one of the bare words.
def Stops (stops : List String) (ls : List Lexeme) : Prop :=
  ∃ l rest, ls = l :: rest ∧ l.token.isAmong stops

namespace Token

variable {t : Token} {stops stops' : List String} {s k : String}

theorem isSymbol_of_isAmong (ht : t.isAmong stops) (hs : s ∉ stops) : t.isSymbol s = false := by
  unfold isAmong at ht
  split at ht
  case h_2 s' =>
    rw [List.contains_iff_mem] at ht
    rw [isSymbol, beq_eq_false_iff_ne]
    rintro rfl
    exact hs ht
  case h_4 => cases ht
  all_goals rfl

theorem isKeyword_of_isAmong (ht : t.isAmong stops) (hk : k ∉ "" :: stops) :
    t.isKeyword k = false := by
  have ⟨hne, hk⟩ : k ≠ "" ∧ k ∉ stops := by simpa using hk
  unfold isAmong at ht
  split at ht
  case h_3 k' =>
    rw [Bool.and_eq_true, List.contains_iff_mem] at ht
    rw [isKeyword, keyword, beq_eq_false_iff_ne]
    rintro rfl
    exact hk ht.1
  case h_4 => cases ht
  all_goals exact beq_eq_false_iff_ne.mpr (Ne.symm hne)

theorem isAmong_mono (hs : stops ⊆ stops') (ht : t.isAmong stops) : t.isAmong stops' := by
  unfold isAmong at ht ⊢
  split at ht
  case h_2 =>
    rw [List.contains_iff_mem] at ht ⊢
    exact hs ht
  case h_3 =>
    rw [Bool.and_eq_true, List.contains_iff_mem] at ht ⊢
    exact ht.imp_left (hs ·)
  case h_4 => cases ht
  all_goals rfl

theorem ne_of_isSymbol (h : t.isSymbol s = false) : t ≠ .symbol s := by
  rintro rfl
  simp [Token.isSymbol] at h

theorem eq_of_isSymbol (h : t.isSymbol s) : t = .symbol s := by
  cases t
  case symbol => exact congrArg Token.symbol (beq_iff_eq.mp h)
  all_goals cases h

end Token

namespace Stops

variable {stops stops' : List String} {depth : Nat} {ls : List Lexeme} {s k : String}
  {ks : List String}

theorem eof {l : Lexeme} (hl : l.token = .eof) : Stops stops [l] := ⟨l, [], rfl, by rw [hl]; rfl⟩

theorem mono (hs : stops ⊆ stops') (h : Stops stops ls) : Stops stops' ls := by
  have ⟨l, rest, e, hl⟩ := h
  exact ⟨l, rest, e, Token.isAmong_mono hs hl⟩

theorem no_symbol (h : Stops stops ls) (hs : s ∉ stops) : Yields (symbol? s) depth ls false ls := by
  obtain ⟨l, rest, rfl, hl⟩ := h
  exact yields_no_symbol (Token.isSymbol_of_isAmong hl hs)

theorem no_peekSymbol (h : Stops stops ls) (hs : s ∉ stops) :
    Yields (peekSymbol s) depth ls false ls := by
  obtain ⟨l, rest, rfl, hl⟩ := h
  exact Token.isSymbol_of_isAmong hl hs ▸ yields_peekSymbol s

theorem no_keyword (h : Stops stops ls) (hk : k ∉ "" :: stops) :
    Yields (keyword? k) depth ls false ls := by
  obtain ⟨l, rest, rfl, hl⟩ := h
  exact yields_no_keyword (Token.isKeyword_of_isAmong hl hk)

theorem no_peekKeyword (h : Stops stops ls) (hk : k ∉ "" :: stops) :
    Yields (peekKeyword k) depth ls false ls := by
  obtain ⟨l, rest, rfl, hl⟩ := h
  exact Token.isKeyword_of_isAmong hl hk ▸ yields_peekKeyword k

theorem no_keywords (h : Stops stops ls) (hk : k ∉ "" :: stops) :
    Yields (keywords? (k :: ks)) depth ls false ls := by
  obtain ⟨l, rest, rfl, hl⟩ := h
  have first : l.token.keyword ≠ k := beq_eq_false_iff_ne.mp (Token.isKeyword_of_isAmong hl hk)
  refine yields_get.bind ?_
  simp only [List.length_cons, List.take_succ_cons, List.map_cons, List.cons_beq_cons,
    beq_eq_false_iff_ne.mpr first, Bool.false_and, Bool.false_eq_true, if_false]
  exact .pure

theorem no_oneOf (h : Stops stops ls) (hk : ∀ k ∈ ks, k ∉ "" :: stops) :
    Yields (oneOf? ks) depth ls none ls := by
  obtain ⟨l, rest, rfl, hl⟩ := h
  apply yields_no_oneOf
  cases e : ks.contains l.token.keyword
  case false => rfl
  case true =>
    have other := Token.isKeyword_of_isAmong hl (hk _ (List.contains_iff_mem.mp e))
    simp [Token.isKeyword] at other

theorem fails_symbol (h : Stops stops ls) (hs : s ∉ stops) : Fails (expectSymbol s) depth ls := by
  have no : Yields (symbol? s) depth ls false ls := h.no_symbol hs
  obtain ⟨l, rest, rfl, hl⟩ := h
  exact .bind_right no (.bind_right yields_lexeme (fails_expectedAt _ _))

theorem no_after {α : Type} {p : Parser α} (h : Stops stops ls) (hk : k ∉ "" :: stops) :
    Yields (after? k p) depth ls none ls := (h.no_keyword hk).bind .pure

end Stops

end Stops

section Tokens

-- Whether an operand may begin with the token. What a query or a quantifier begins with is read as
-- one.
def Token.opens (t : Token) : Bool :=
  !t.isSymbol "." && !t.isSymbol "[" && !t.isSymbol "*" &&
    !(["SELECT", "WITH", "ANY", "ALL", "SOME"].contains t.keyword)

def parenTokens (ts : List Token) : List Token := .symbol "(" :: ts ++ [.symbol ")"]

def commaTokens (tss : List (List Token)) : List Token := [Token.symbol ","].intercalate tss

def notTokens (negated : Bool) : List Token := if negated then [.ofWord "NOT"] else []

-- How many parentheses open in front.
def openings (ts : List Token) : Nat := (ts.takeWhile (·.isSymbol "(")).length

-- Whether a query may begin so, behind any number of opening parentheses.
def startsQuery (ts : List Token) : Bool :=
  (ts.dropWhile (·.isSymbol "(")).head?.any fun t =>
    ["SELECT", "FROM", "WITH", "VALUES", "VALUE", "TABLE", "INSERT", "UPDATE", "DELETE",
      "MERGE"].contains t.keyword

def startsExists (ts : List Token) : Bool := ts.head?.any (·.isKeyword "EXISTS")

-- Tokens without brackets, and with no point in front.
structure Smooth (ts : List Token) : Prop where
  unbracketed : Token.symbol "[" ∉ ts
  unpointed : ts.head? ≠ some (.symbol ".")

-- There is no star behind the name in front.
inductive Unstarred : List Token → Prop
  | last {t ts} : ts.head? ≠ some (.symbol ".") → Unstarred (t :: ts)
  | more {t text k q ts} : Unstarred (.word text k q :: ts) →
    Unstarred (t :: .symbol "." :: .word text k q :: ts)

-- What an operand is cut into: it begins like one, and a parenthesis in front is closed.
structure Rounded (ts : List Token) : Prop where
  opens : ∃ t ts', ts = t :: ts' ∧ t.opens ∧ (t = .symbol "(" → .symbol ")" ∈ ts')
  unbracketed : Token.symbol "[" ∉ ts
  unstarred : Unstarred ts

-- A tree with its text and the tokens that the text is cut into.
structure Entry (α : Type) where
  tree   : α
  text   : String
  tokens : List Token

end Tokens

section Operators

def symbolStrength (op : String) : Nat :=
  ((Binding.ofSymbol? op).map (Binding.strength .generic)).getD 0

-- An operator between two operands: the expression that it makes of them, how it is written, the
-- tokens of that and how tightly it binds.
inductive Infix : (Expr → Expr → Expr) → String → List Token → Nat → Prop
  | symbol {op} : op ∈ infixSymbols → Infix (.binary · op ·) op [.symbol op] (symbolStrength op)
  | and : Infix (.binary · "AND" ·) "AND" [.ofWord "AND"] 10
  | or : Infix (.binary · "OR" ·) "OR" [.ofWord "OR"] 5
  | xor : Infix (.binary · "XOR" ·) "XOR" [.ofWord "XOR"] 24
  | overlaps : Infix (.binary · "OVERLAPS" ·) "OVERLAPS" [.ofWord "OVERLAPS"] 20
  | like (caseless negated : Bool) :
    Infix (.like caseless negated false · · none)
      ((if negated then "NOT " else "") ++ (if caseless then "ILIKE" else "LIKE"))
      (notTokens negated ++ [.ofWord (if caseless then "ILIKE" else "LIKE")]) 19
  | zone :
    Infix (fun l r => .phrase (Phrase.expr l ++ Phrase.words " AT TIME ZONE " ++ Phrase.expr r))
      "AT TIME ZONE" [.ofWord "AT", .ofWord "TIME", .ofWord "ZONE"] 41

end Operators

section Reading

-- What comes next binds what stands to its left no more tightly than `reach`.
def Follows (reach : Nat) (ls : List Lexeme) : Prop :=
  ∃ l rest, ls = l :: rest ∧ l.token.follows ∧
    ∀ depth, ∃ s ≤ reach, Yields nextStrength depth ls s ls

-- The rules are unfolded far enough for the tokens.
def Unfolded (m : Nat) (ls : List Lexeme) : Prop := 4 * ls.length + 8 ≤ m

-- The operand in front of the first operator.
def Heads (r : Rules) (depth : Nat) (ls : List Lexeme) (e : Expr) (rest : List Lexeme) : Prop :=
  ∃ root mid, Yields (prefixExpr r) depth ls root mid ∧ Yields (chain r root) depth mid e rest

-- One more operator behind an expression, if it binds more tightly than `strength`.
def extended (r : Rules) (strength : Nat) (e : Expr) : Parser (Option Expr) := do
  let next ← nextStrength
  if strength ≥ next || (← peekSymbol ".") then return none
  else return some (← infixExpr r e next)

-- The tokens `ts` read back as the expression wherever what stands to their left binds more loosely
-- than `grip` and what stands to their right no more tightly than `reach`. At most `levels`
-- expressions and queries are opened inside each other.
def Reads (e : Expr) (ts : List Token) (grip reach levels : Nat) : Prop :=
  ∀ m depth strength ls after, ls.map (·.token) = ts → Unfolded m ls → levels ≤ depth →
    strength < grip → Follows reach after →
    ∃ e' mid, Heads (rules m) depth (ls ++ after) e' mid ∧
      (∃ l rest, mid = l :: rest ∧ l.token.follows) ∧
      Relation.ReflTransGen (Advances (extended (rules m) strength) depth) (e', mid) (e, after)

-- The parser reads the tokens as `a` in front of one of the stops. Some unfoldings are needed beside
-- those for the tokens.
def ReadsWithin {α : Type} (slack : Nat) (p : Rules → Parser α) (stops : List String) (a : α)
    (ts : List Token) (levels : Nat) : Prop :=
  ∀ m depth ls after, ls.map (·.token) = ts → 4 * ls.length + slack ≤ m → levels ≤ depth →
    Stops stops after → Yields (p (rules m)) depth (ls ++ after) a after

abbrev ReadsBefore {α : Type} (p : Rules → Parser α) (stops : List String) (a : α)
    (ts : List Token) (levels : Nat) : Prop := ReadsWithin 9 p stops a ts levels

end Reading

section Follows

variable {k strength : Nat} {ls : List Lexeme}

theorem Follows.exists_cons (h : Follows k ls) : ∃ l rest, ls = l :: rest ∧ l.token.follows := by
  have ⟨l, rest, e, hl, _⟩ := h
  exact ⟨l, rest, e, hl⟩

theorem Follows.stops (h : Follows k ls) : Stops followStops ls := by
  have ⟨l, rest, e, hl, _⟩ := h
  exact ⟨l, rest, e, hl⟩

theorem Follows.mono (hs : strength ≤ k) (h : Follows strength ls) : Follows k ls := by
  have ⟨l, rest, e, hl, h⟩ := h
  refine ⟨l, rest, e, hl, fun depth => ?_⟩
  have ⟨s, hs', next⟩ := h depth
  exact ⟨s, by omega, next⟩

-- The end of a clause ends every expression.
theorem Stops.follows {stops : List String} (hs : stops ⊆ clauseStops) (h : Stops stops ls) :
    Follows k ls := by
  obtain ⟨⟨t, p, g⟩, rest, rfl, hl⟩ := h
  have hl : t.isAmong clauseStops := Token.isAmong_mono hs hl
  have follows : t.follows := Token.isAmong_mono (List.subset_append_right _ _) hl
  refine ⟨_, _, rfl, follows, fun depth => ⟨0, Nat.zero_le k, ?_⟩⟩
  unfold Token.isAmong at hl
  split at hl
  case h_1 => rfl
  case h_2 s =>
    rw [List.contains_iff_mem] at hl
    fin_cases hl <;> exact rfl
  case h_3 text kw =>
    rw [Bool.and_eq_true, List.contains_iff_mem] at hl
    obtain ⟨hl, -⟩ := hl
    fin_cases hl <;> exact rfl
  case h_4 => cases hl

end Follows

end SqlLens.Sql
