import Mathlib.Logic.Relation
import SqlLens.Sql.Parser

namespace SqlLens.Sql.Parser

-- The parser gives `a` and leaves `rest`, with as many levels as before.
def Yields {α : Type} (p : Parser α) (depth : Nat) (ls : List Lexeme) (a : α) (rest : List Lexeme) :
    Prop :=
  p .generic { rest := ls, depth := depth } = .ok (a, { rest := rest, depth := depth })

-- The parser fails in a way that an attempt forgives.
def Fails {α : Type} (p : Parser α) (depth : Nat) (ls : List Lexeme) : Prop :=
  ∃ f, p .generic { rest := ls, depth := depth } = .error f ∧ f ≠ .tooDeep ∧ f ≠ .exhausted

-- Items with commas between them, each of which takes something. Behind a comma stands a token that
-- an item may begin with.
inductive Listed {α : Type} (item : Parser α) (starts : Lexeme → Prop) (depth : Nat) :
    List Lexeme → List α → List Lexeme → Prop
  | last {ls rest l a} : Yields item depth ls a (l :: rest) → rest.length + 1 < ls.length →
    l.token.isSymbol "," = false → Listed item starts depth ls [a] (l :: rest)
  | more {ls mid rest comma l a as} : Yields item depth ls a (comma :: l :: mid) →
    mid.length + 2 < ls.length → comma.token = .symbol "," → starts l →
    Listed item starts depth (l :: mid) as rest → Listed item starts depth ls (a :: as) rest

variable {α β : Type} {p : Parser α} {q : α → Parser β} {a a' : α} {b : β} {depth : Nat}
  {ls mid rest : List Lexeme} {l : Lexeme} {r : Rules}

namespace Yields

theorem pure : Yields (pure a) depth ls a ls := rfl

theorem bind (h : Yields p depth ls a mid) (h' : Yields (q a) depth mid b rest) :
    Yields (p >>= q) depth ls b rest := by
  unfold Yields at *
  rw [← h']
  show Except.bind (p .generic _) _ = _
  rw [h]
  rfl

theorem deeper (h : Yields p depth ls a rest) : Yields (deeper p) (depth + 1) ls a rest := by
  unfold Yields at h ⊢
  show Except.bind (p .generic _) _ = _
  simp only [Nat.add_sub_cancel]
  rw [h]
  rfl

theorem attempt (h : Yields p depth ls a rest) : Yields (attempt p) depth ls (some a) rest := by
  unfold Yields Parser.attempt at *
  rw [h]

theorem attempt' (h : Yields p depth ls a rest) : Yields (attempt' p) depth ls (.ok a) rest := by
  unfold Yields Parser.attempt' at *
  rw [h]

end Yields

namespace Fails

theorem attempt (h : Fails p depth ls) : Yields (attempt p) depth ls none ls := by
  have ⟨f, h, deep, exhausted⟩ := h
  unfold Yields Parser.attempt
  rw [h]
  cases f <;> trivial

theorem exists_attempt' (h : Fails p depth ls) :
    ∃ f, Yields (attempt' p) depth ls (.error f) ls := by
  have ⟨f, h, _⟩ := h
  refine ⟨f, ?_⟩
  unfold Yields attempt'
  rw [h]

theorem bind_left (h : Fails p depth ls) : Fails (p >>= q) depth ls := by
  have ⟨f, h, forgiven⟩ := h
  refine ⟨f, ?_, forgiven⟩
  show Except.bind (p .generic _) _ = _
  rw [h]
  rfl

theorem bind_right (h : Yields p depth ls a mid) (h' : Fails (q a) depth mid) :
    Fails (p >>= q) depth ls := by
  have ⟨f, h', forgiven⟩ := h'
  refine ⟨f, ?_, forgiven⟩
  unfold Yields at h
  show Except.bind (p .generic _) _ = _
  rw [h]
  exact h'

theorem deeper (h : Fails p depth ls) : Fails (deeper p) (depth + 1) ls := by
  have ⟨f, h, forgiven⟩ := h
  refine ⟨f, ?_, forgiven⟩
  show Except.bind (p .generic _) _ = _
  simp only [Nat.add_sub_cancel]
  rw [h]
  rfl

end Fails

section Tokens

variable {l' : Lexeme} {s text k : String} {q? : Option Char}

theorem yields_dialect : Yields dialect depth ls .generic ls := rfl

theorem yields_get : Yields get depth ls { rest := ls, depth := depth } ls := rfl

theorem yields_lexeme : Yields lexeme depth (l :: ls) l (l :: ls) := rfl

theorem yields_token : Yields token depth (l :: ls) l.token (l :: ls) := rfl

theorem yields_peekSymbol (s : String) :
    Yields (peekSymbol s) depth (l :: ls) (l.token.isSymbol s) (l :: ls) := rfl

theorem yields_peekKeyword (k : String) :
    Yields (peekKeyword k) depth (l :: ls) (l.token.isKeyword k) (l :: ls) := rfl

theorem yields_skip (hl : l.token.isEof = false) :
    Yields skip depth (l :: l' :: ls) () (l' :: ls) := by
  show Except.ok _ = _
  simp [hl]

theorem yields_next (hl : l.token.isEof = false) :
    Yields next depth (l :: l' :: ls) l (l' :: ls) :=
  yields_lexeme.bind ((yields_skip hl).bind .pure)

theorem exists_next (depth : Nat) (l : Lexeme) (ls : List Lexeme) :
    ∃ rest, Yields next depth (l :: ls) l rest := by
  cases ls
  case nil => exact ⟨_, rfl⟩
  case cons l' ls =>
    cases hl : l.token.isEof
    case false => exact ⟨_, yields_next hl⟩
    case true =>
      have stays : Yields skip depth (l :: l' :: ls) () (l :: l' :: ls) := by
        show Except.ok _ = _
        simp [hl]
      exact ⟨_, yields_lexeme.bind (stays.bind .pure)⟩

theorem yields_no_symbol (hl : l.token.isSymbol s = false) :
    Yields (symbol? s) depth (l :: ls) false (l :: ls) := by
  have peek : Yields (peekSymbol s) depth (l :: ls) false (l :: ls) := hl ▸ rfl
  exact peek.bind .pure

theorem yields_no_symbols {s s' : String} {l' : Lexeme}
    (h : (l.token.isSymbol s && l'.token.isSymbol s') = false) :
    Yields (symbols? [s, s']) depth (l :: l' :: ls) false (l :: l' :: ls) := by
  refine yields_get.bind ?_
  dsimp only
  split
  case isTrue taken => simp [h] at taken
  case isFalse => exact .pure

theorem yields_symbol (hl : l.token = .symbol s) :
    Yields (symbol? s) depth (l :: l' :: ls) true (l' :: ls) := by
  have here : l.token.isSymbol s = true := hl ▸ beq_self_eq_true s
  have more : l.token.isEof = false := hl ▸ rfl
  have peek : Yields (peekSymbol s) depth (l :: l' :: ls) true (l :: l' :: ls) := here ▸ rfl
  exact peek.bind ((yields_skip more).bind .pure)

theorem yields_expectSymbol (hl : l.token = .symbol s) :
    Yields (expectSymbol s) depth (l :: l' :: ls) () (l' :: ls) :=
  (yields_symbol hl).bind .pure

theorem yields_no_keyword (hl : l.token.isKeyword k = false) :
    Yields (keyword? k) depth (l :: ls) false (l :: ls) := by
  have peek : Yields (peekKeyword k) depth (l :: ls) false (l :: ls) := hl ▸ rfl
  exact peek.bind .pure

theorem yields_keyword (hl : l.token.isKeyword k) (hk : k ≠ "") :
    Yields (keyword? k) depth (l :: l' :: ls) true (l' :: ls) := by
  have peek : Yields (peekKeyword k) depth (l :: l' :: ls) true (l :: l' :: ls) := hl ▸ rfl
  have more : l.token.isEof = false := by
    cases e : l.token
    case eof =>
      rw [e] at hl
      exact absurd (beq_iff_eq.mp hl).symm hk
    all_goals rfl
  exact peek.bind ((yields_skip more).bind .pure)

theorem yields_no_oneOf {ks : List String} (hl : ks.contains l.token.keyword = false) :
    Yields (oneOf? ks) depth (l :: ls) none (l :: ls) := by
  refine yields_token.bind ?_
  simp only [hl, Bool.false_and]
  exact .pure

theorem yields_ident (hl : l.token = .word text k q?) :
    Yields ident depth (l :: l' :: ls) ⟨text, q?⟩ (l' :: ls) := by
  have more : l.token.isEof = false := hl ▸ rfl
  refine (yields_next more).bind ?_
  rw [hl]
  exact .pure

theorem fails_expectedAt (what : String) (found : Lexeme) :
    Fails (expectedAt what found : Parser α) depth ls := ⟨_, rfl, nofun, nofun⟩

theorem fails_fail (text : String) (at? : Option Position) :
    Fails (fail text at? : Parser α) depth ls := ⟨_, rfl, nofun, nofun⟩

theorem yields_parenthesized {first last : Lexeme} (hfirst : first.token = .symbol "(")
    (hlast : last.token = .symbol ")") (h : Yields p depth (l :: ls) a (last :: l' :: rest)) :
    Yields (parenthesized p) depth (first :: l :: ls) a (l' :: rest) :=
  (yields_expectSymbol hfirst).bind (h.bind ((yields_expectSymbol hlast).bind .pure))

end Tokens

section Loops

variable {step : α → Parser (Option α)}

-- One round of a loop, which takes something.
def Advances (step : α → Parser (Option α)) (depth : Nat) (s s' : α × List Lexeme) : Prop :=
  Yields (step s.1) depth s.2 (some s'.1) s'.2 ∧ s'.2.length < s.2.length

theorem yields_iterate {s s' : α × List Lexeme}
    (h : Relation.ReflTransGen (Advances step depth) s s')
    (stop : Yields (step s'.1) depth s'.2 none s'.2) {n : Nat} (hn : s.2.length < n) :
    Yields (iterate step n s.1) depth s.2 s'.1 s'.2 := by
  induction h using Relation.ReflTransGen.head_induction_on generalizing n
  case refl =>
    cases n
    case zero => cases hn
    case succ n => exact stop.bind .pure
  case head s t step _ hi =>
    cases n
    case zero => cases hn
    case succ n =>
      have := step.2
      exact step.1.bind (hi (by omega))

theorem yields_repeated (h : Relation.ReflTransGen (Advances step depth) (a, ls) (a', rest))
    (stop : Yields (step a') depth rest none rest) : Yields (repeated step a) depth ls a' rest :=
  yields_iterate h stop (Nat.lt_succ_self _)

-- A loop that ends at once.
theorem yields_repeated_none (stop : Yields (step a) depth ls none ls) :
    Yields (repeated step a) depth ls a ls := yields_repeated .refl stop

theorem yields_many_nil {p : Parser (Option α)} (h : Yields p depth ls none ls) :
    Yields (many p) depth ls [] ls := by
  refine Yields.bind (a := []) (yields_repeated_none (h.bind ?_)) .pure
  exact .pure

end Loops

section Lists

variable {item : Parser α} {as : List α} {comma : Lexeme}

theorem yields_comma (hc : comma.token = .symbol ",") :
    Yields (symbol? ",") depth (comma :: l :: ls) true (l :: ls) := by
  obtain ⟨t, p, g⟩ := comma
  cases hc
  rfl

variable {starts : Lexeme → Prop} {again : Parser Bool}

theorem Listed.loop (h : Listed item starts depth ls as rest)
    (next : ∀ comma l ls, comma.token = .symbol "," → starts l →
      Yields again depth (comma :: l :: ls) true (l :: ls))
    (stop : ∀ l ls, l.token.isSymbol "," = false → Yields again depth (l :: ls) false (l :: ls)) :
    let step (items : List α) : Parser (Option (List α)) := do
      if ← again then return some ((← item) :: items) else return none
    ∃ a mid, Yields item depth ls a mid ∧ mid.length < ls.length ∧
      (∀ acc, Relation.ReflTransGen (Advances step depth) (a :: acc, mid)
        (as.reverse ++ acc, rest)) ∧
      ∀ items, Yields (step items) depth rest none rest := by
  intro step
  induction h
  case last h shorter hl =>
    exact ⟨_, _, h, shorter, fun _ => .refl, fun _ => (stop _ _ hl).bind .pure⟩
  case more ls mid rest comma l a as h shorter hc hs _ hi =>
    have ⟨b, mid', h', shorter', loop, stop⟩ := hi
    refine ⟨a, comma :: l :: mid, h, shorter, fun acc => ?_, stop⟩
    have first : Advances step depth (a :: acc, comma :: l :: mid) (b :: a :: acc, mid') := by
      refine ⟨(next _ _ _ hc hs).bind (h'.bind .pure), ?_⟩
      simp only [List.length_cons] at shorter' ⊢
      omega
    rw [List.reverse_cons, List.append_assoc]
    exact .head first (loop _)

theorem yields_separated (h : Listed item starts depth ls as rest)
    (next : ∀ comma l ls, comma.token = .symbol "," → starts l →
      Yields again depth (comma :: l :: ls) true (l :: ls))
    (stop : ∀ l ls, l.token.isSymbol "," = false → Yields again depth (l :: ls) false (l :: ls)) :
    Yields (separated again item) depth ls as rest := by
  have ⟨a, mid, first, _, loop, stop⟩ := h.loop next stop
  have := loop []
  rw [List.append_nil] at this
  have items := yields_repeated this (stop _)
  exact first.bind (items.bind (by simpa using .pure))

theorem yields_commaSeparated (h : Listed item starts depth ls as rest) :
    Yields (commaSeparated item) depth ls as rest :=
  yields_separated h (fun _ _ _ hc _ => yields_comma hc) fun _ _ hl => yields_no_symbol hl

end Lists

end SqlLens.Sql.Parser
