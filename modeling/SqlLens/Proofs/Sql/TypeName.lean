import SqlLens.Proofs.Sql.Reading

namespace SqlLens.Sql

open SqlLens.Sql.Parser

variable {depth : Nat} {l l' : Lexeme} {ls rest : List Lexeme} {r : Rules} {t : Token}

theorem fails_typedLiteral_of_not_word (hl : l.token.isWord = false) :
    Fails (typedLiteral r) depth (l :: ls) := by
  have read : Fails (readType r) depth (l :: ls) := by
    refine .bind_right yields_lexeme ?_
    rw [hl]
    exact (fails_expectedAt _ _).bind_left
  exact read.bind_left

section Modifiers

-- One word of the list behind the name of a type, if it is not yet closed.
def modifier : List String × Bool → Parser (Option (List String × Bool)) := fun (words, done) => do
  if done then return none
  let l ← next
  match l.token with
  | .word .. => return some (l.token.text :: words, false)
  | .number digits _ => return some (digits :: words, false)
  | .string .single text => return some (text :: words, false)
  | .symbol "," => return some (words, false)
  | .symbol ")" => return some (words, true)
  | _ => expectedAt "type modifiers" l

theorem typeModifiers_eq : typeModifiers = (do
    if !(← symbol? "(") then return []
    let (words, _) ← repeated modifier ([], false)
    return words.reverse) := rfl

theorem modifier_outcome (depth : Nat) (l l' : Lexeme) (ls : List Lexeme) (words : List String) :
    Fails (modifier (words, false)) depth (l :: l' :: ls) ∨
      ∃ words', Yields (modifier (words, false)) depth (l :: l' :: ls)
        (some (words', l.token.isSymbol ")")) (l' :: ls) := by
  obtain ⟨t, p, g⟩ := l
  cases ht : t.isEof
  case true =>
    cases t <;> cases ht
    exact .inl ⟨_, rfl, nofun, nofun⟩
  case false =>
    have taken : Yields next depth (⟨t, p, g⟩ :: l' :: ls) ⟨t, p, g⟩ (l' :: ls) := yields_next ht
    simp only [modifier, Bool.false_eq_true, if_false]
    cases t
    case eof => cases ht
    case word => exact .inr ⟨_, taken.bind .pure⟩
    case number => exact .inr ⟨_, taken.bind .pure⟩
    case string form text =>
      cases form
      case single => exact .inr ⟨_, taken.bind .pure⟩
      all_goals exact .inl (.bind_right taken (fails_expectedAt _ _))
    case symbol s =>
      by_cases comma : s = ","
      case pos =>
        subst comma
        exact .inr ⟨_, taken.bind .pure⟩
      case neg =>
        by_cases closed : s = ")"
        case pos =>
          subst closed
          exact .inr ⟨_, taken.bind .pure⟩
        case neg =>
          refine .inl (.bind_right taken ?_)
          split
          all_goals first | exact fails_expectedAt _ _ | simp_all
    all_goals exact .inl (.bind_right taken (fails_expectedAt _ _))

-- A list that is closed before `l` ends before `l`, with no bracket behind it.
theorem iterate_modifier_outcome {before : List Lexeme} {n : Nat} (depth : Nat)
    (after : List Lexeme) (words : List String)
    (closed : ∃ x ∈ before, x.token = .symbol ")") (hn : before.length + after.length < n)
    (unbracketed : ∀ x ∈ before ++ [l], x.token ≠ .symbol "[") :
    Fails (iterate modifier n (words, false)) depth (before ++ l :: after) ∨
      ∃ result l' rest, Yields (iterate modifier n (words, false)) depth (before ++ l :: after)
        result (l' :: rest) ∧ l'.token ≠ .symbol "[" := by
  induction before generalizing words n
  case nil => simp at closed
  case cons x before hi =>
    obtain ⟨n, rfl⟩ : ∃ n', n = n' + 1 := ⟨n - 1, by omega⟩
    have ⟨y, rest, e, hy⟩ : ∃ y rest, before ++ l :: after = y :: rest ∧ y ∈ before ++ [l] := by
      cases before
      case nil => exact ⟨l, after, rfl, by simp⟩
      case cons y before => exact ⟨y, before ++ l :: after, rfl, by simp⟩
    rw [List.cons_append, e]
    have step := modifier_outcome depth x y rest words
    cases step
    case inl fails => exact .inl fails.bind_left
    case inr h =>
      have ⟨words', step⟩ := h
      cases hx : x.token.isSymbol ")"
      case true =>
        rw [hx] at step
        have behind := unbracketed y (List.mem_cons_of_mem _ hy)
        refine .inr ⟨(words', true), y, rest, step.bind ?_, behind⟩
        cases n <;> rfl
      case false =>
        rw [hx] at step
        have closed' : ∃ x ∈ before, x.token = .symbol ")" := by
          have ⟨z, hz, e⟩ := closed
          cases hz
          case head =>
            rw [e] at hx
            cases hx
          case tail hz => exact ⟨z, hz, e⟩
        have unbracketed' := fun z hz => unbracketed z (List.mem_cons_of_mem _ hz)
        have hn' : before.length + after.length < n := by
          simp only [List.length_cons] at hn
          omega
        have behind := hi words' closed' hn' unbracketed'
        rw [e] at behind
        cases behind
        case inl fails => exact .inl (.bind_right step fails)
        case inr h =>
          have ⟨result, l', rest', h, hl'⟩ := h
          exact .inr ⟨result, l', rest', step.bind h, hl'⟩

end Modifiers

section Settled

-- What stands behind a keyword that is no type: no bracket before `l`, and a parenthesis in front
-- is closed before `l`.
structure Settled (ls : List Lexeme) : Prop where
  ends : ∃ before l after, ls = before ++ l :: after ∧
    (∀ x ∈ before ++ [l], x.token ≠ .symbol "[") ∧
    ∀ first more, ls = first :: more → first.token = .symbol "(" →
      ∃ inside, before = first :: inside ∧ ∃ x ∈ inside, x.token = .symbol ")"
  undotted : ∀ first more, ls = first :: more → first.token ≠ .symbol "."

theorem typeModifiers_outcome (depth : Nat) (h : Settled ls) :
    Fails typeModifiers depth ls ∨
      ∃ words l' rest, Yields typeModifiers depth ls words (l' :: rest) ∧
        l'.token ≠ .symbol "[" := by
  obtain ⟨before, l, after, rfl, unbracketed, closed⟩ := h.ends
  have ⟨x, more, e, hx⟩ : ∃ x more, before ++ l :: after = x :: more ∧ x ∈ before ++ [l] := by
    cases before
    case nil => exact ⟨l, after, rfl, by simp⟩
    case cons y before => exact ⟨y, before ++ l :: after, rfl, by simp⟩
  rw [typeModifiers_eq]
  cases opened : x.token.isSymbol "("
  case false =>
    rw [e]
    exact .inr ⟨[], x, more, (yields_no_symbol opened).bind .pure, unbracketed x hx⟩
  case true =>
    have paren := Token.eq_of_isSymbol opened
    obtain ⟨inside, rfl, hc⟩ := closed x more e paren
    have taken : Yields (symbol? "(") depth (x :: inside ++ l :: after) true
        (inside ++ l :: after) := by
      cases inside <;> exact yields_symbol paren
    have unbracketed' := fun z hz => unbracketed z (List.mem_cons_of_mem _ hz)
    have behind := iterate_modifier_outcome (n := (inside ++ l :: after).length + 1) depth after []
      hc (by grind) unbracketed'
    cases behind
    case inl fails =>
      have fails : Fails (repeated modifier ([], false)) depth (inside ++ l :: after) := fails
      exact .inl (.bind_right taken fails.bind_left)
    case inr h =>
      have ⟨result, l', rest, h, hl'⟩ := h
      have h : Yields (repeated modifier ([], false)) depth (inside ++ l :: after) result
          (l' :: rest) := h
      exact .inr ⟨_, l', rest, taken.bind (h.bind .pure), hl'⟩

variable {text k : String} {q : Option Char}

theorem yields_name (hl : l.token = .word text k q) (hl' : l'.token.isSymbol "." = false) :
    Yields name depth (l :: l' :: ls) [⟨text, q⟩] (l' :: ls) := by
  refine (yields_ident hl).bind (Yields.bind (a := [⟨text, q⟩]) ?_ .pure)
  exact yields_repeated_none ((yields_no_symbol hl').bind .pure)

theorem customType_outcome (depth : Nat) (hl : l.token = .word text k q) (h : Settled ls) :
    Fails customType depth (l :: ls) ∨
      ∃ type l' rest, Yields customType depth (l :: ls) type (l' :: rest) ∧
        l'.token ≠ .symbol "[" := by
  obtain ⟨l', more, rfl⟩ : ∃ l' more, ls = l' :: more := by
    have ⟨before, l, after, e, _⟩ := h.ends
    cases before
    all_goals exact ⟨_, _, e⟩
  have undotted : l'.token.isSymbol "." = false := by
    have := h.undotted l' more rfl
    cases e : l'.token.isSymbol "."
    case false => rfl
    case true => exact absurd (Token.eq_of_isSymbol e) this
  have named : Yields name depth (l :: l' :: more) [⟨text, q⟩] (l' :: more) :=
    yields_name hl undotted
  cases typeModifiers_outcome depth h
  case inl fails => exact .inl (.bind_right named fails.bind_left)
  case inr h =>
    have ⟨words, l', rest, h, hl'⟩ := h
    exact .inr ⟨_, l', rest, named.bind (h.bind .pure), hl'⟩

-- What is read as a type of the user's own is not followed by a literal that has it.
theorem fails_typedLiteral_of_customType (hl : l.token.isWord)
    (hk : Yields (keywordType? r l.token.keyword) depth (l :: ls) none (l :: ls))
    (h : Fails customType depth (l :: ls) ∨
      ∃ type l' rest, Yields customType depth (l :: ls) type (l' :: rest) ∧
        l'.token ≠ .symbol "[") :
    Fails (typedLiteral r) depth (l :: ls) := by
  cases h
  case inl fails =>
    have read : Fails (readType r) depth (l :: ls) := by
      refine .bind_right yields_lexeme ?_
      rw [hl]
      exact .bind_left (.bind_right hk fails.bind_left)
    exact read.bind_left
  case inr h =>
    have ⟨type, l', rest, h, hl'⟩ := h
    have unbracketed : l'.token.isSymbol "[" = false := by
      cases e : l'.token.isSymbol "["
      case false => rfl
      case true => exact absurd (Token.eq_of_isSymbol e) hl'
    have read : Yields (readType r) depth (l :: ls) (.custom, type, false) (l' :: rest) := by
      refine yields_lexeme.bind ?_
      rw [hl]
      refine .bind (hk.bind (h.bind .pure)) (yields_dialect.bind ?_)
      exact yields_repeated_none ((yields_no_symbol unbracketed).bind .pure)
    exact .bind_right read (.bind_right .pure (fails_fail _ _))

-- Where a keyword could be a type, it is not the type of a literal.
theorem fails_typedLiteral (hl : l.token = .word text k q)
    (hk : Yields (keywordType? r l.token.keyword) depth (l :: ls) none (l :: ls))
    (h : Settled ls) : Fails (typedLiteral r) depth (l :: ls) :=
  fails_typedLiteral_of_customType (hl ▸ rfl) hk (customType_outcome depth hl h)

end Settled

end SqlLens.Sql
