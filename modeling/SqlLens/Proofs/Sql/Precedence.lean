import SqlLens.Proofs.Sql.Leaf
import SqlLens.Proofs.Sql.Operation

namespace SqlLens.Sql

open SqlLens.Sql.Parser

def comparisonSymbols : List String := ["=", "<>", "<", "<=", ">", ">="]

-- An operator between two operands: the kind and name of its node, how tightly it binds and
-- its token.
inductive Joins : OperatorKind → String → Nat → Token → Prop
  | or : Joins .or "" 5 (.ofWord "OR")
  | and : Joins .and "" 10 (.ofWord "AND")
  | comparison {op} : op ∈ comparisonSymbols → Joins .op op 20 (.symbol op)

-- `Grouped atom ts s n`: the tokens `ts` are read as the node, and its outermost operator binds
-- with strength `s`. What is read without an operator is an `atom`.
inductive Grouped (atom : List Token → Node → Prop) : List Token → Nat → Node → Prop
  | atom {ts n} : atom ts n → Grouped atom ts 100 n
  | parens {ts s n} : Grouped atom ts s n → Grouped atom (parenTokens ts) 100 n
  | negation {ts s n} : Grouped atom ts s n → 15 ≤ s →
    Grouped atom (.ofWord "NOT" :: ts) 15 (notNode n)
  | join {kind name t s l lts ls r rts rs} : Joins kind name s t → Grouped atom lts ls l → s ≤ ls →
    Grouped atom rts rs r → s < rs →
    Grouped atom (lts ++ t :: rts) s (.operator ⟨kind, name, some l, some r⟩)

-- Words that are never names.
def booleanWords : List String := ["AND", "OR", "NOT", "TRUE", "FALSE", "NULL"]

-- The name that the token stands for.
def Token.name? (t : Token) : Option String :=
  match t with
  | .word text _ quote =>
    if booleanWords.contains t.keyword then none else some (Ident.folded ⟨text, quote⟩)
  | _ => none

-- The constant that the token stands for.
def Token.constant? : Token → Option Constant
  | .number digits false => some (.number digits)
  | .string .single text => some (.string text)
  | .word _ "TRUE" none  => some (.boolean true)
  | .word _ "FALSE" none => some (.boolean false)
  | .word _ "NULL" none  => some .null
  | _ => none

-- Names with points between them.
inductive NamePath : List Token → List String → Prop
  | last {t name} : t.name? = some name → NamePath [t] [name]
  | more {t name ts names} : t.name? = some name → NamePath ts names →
    NamePath (t :: .symbol "." :: ts) (name :: names)

-- What is read without an operator: constants and columns.
inductive Value : List Token → Node → Prop
  | const {t c} : t.constant? = some c → Value [t] (.const c)
  | column {ts names} : NamePath ts names → Value ts (.column ⟨names⟩)

variable {s s' : Nat} {t t' : Token} {ts ts' lts rts lts' rts' : List Token} {n n' l r : Node}
  {kind kind' : OperatorKind} {name name' : String} {atom : List Token → Node → Prop}

theorem Grouped.mono {atom' : List Token → Node → Prop} (hn : Grouped atom ts s n)
    (h : ∀ ts n, atom ts n → atom' ts n) : Grouped atom' ts s n := by
  induction hn
  case atom ha => exact .atom (h _ _ ha)
  case parens hi => exact .parens hi
  case negation hs hi => exact .negation hi hs
  case join hj _ hs _ hs' hl hr => exact .join hj hl hs hr hs'

theorem Joins.same (h : Joins kind name s t) (h' : Joins kind' name' s t) :
    kind = kind' ∧ name = name' := by
  cases h <;> cases h' <;> exact ⟨rfl, rfl⟩

section Nesting

-- How tightly the token binds outside of parentheses.
def Token.strength (t : Token) : Nat :=
  if t.isKeyword "OR" then 5
  else if t.isKeyword "AND" then 10
  else if t.isKeyword "NOT" then 15
  else if comparisonSymbols.any t.isSymbol then 20
  else 100

def Token.level : Token → Int
  | .symbol "(" => 1
  | .symbol ")" => -1
  | _ => 0

-- How many parentheses are open behind the tokens.
def nesting : List Token → Int
  | [] => 0
  | t :: ts => t.level + nesting ts

@[simp] theorem nesting_nil : nesting [] = 0 := rfl

@[simp] theorem nesting_cons : nesting (t :: ts) = t.level + nesting ts := rfl

@[simp] theorem nesting_append : nesting (ts ++ ts') = nesting ts + nesting ts' := by
  induction ts
  case nil => simp
  case cons hi => simp [hi, Int.add_assoc]

theorem Joins.strength (h : Joins kind name s t) : t.strength = s := by
  cases h
  case comparison ho =>
    revert name
    decide
  all_goals rfl

theorem Joins.level (h : Joins kind name s t) : t.level = 0 := by
  cases h
  case comparison ho =>
    revert name
    decide
  all_goals rfl

theorem Token.strength_le : t.strength ≤ 100 := by
  unfold strength
  split_ifs <;> decide

-- The parentheses match, and what stands outside of them binds with strength `s` or more.
structure Closed (s : Nat) (ts : List Token) : Prop where
  closed : nesting ts = 0
  opened : ∀ pre suf, ts = pre ++ suf → 0 ≤ nesting pre
  outside : ∀ pre t suf, ts = pre ++ t :: suf → nesting pre = 0 → s ≤ t.strength

namespace Closed

theorem mono (h : Closed s ts) (hs : s' ≤ s) : Closed s' ts :=
  ⟨h.closed, h.opened, fun pre t suf e hp => hs.trans (h.outside pre t suf e hp)⟩

theorem token (ht : t.level = 0) (hs : s ≤ t.strength) : Closed s [t] := by
  refine ⟨by simp [ht], fun pre suf e => ?_, fun pre t' suf e _ => ?_⟩
  · obtain ⟨rfl, -⟩ | ⟨rfl, -⟩ := List.append_eq_singleton_iff.mp e.symm
    all_goals simp [ht]
  · obtain ⟨rfl, e⟩ | ⟨-, e⟩ := List.append_eq_singleton_iff.mp e.symm
    all_goals cases e
    exact hs

theorem append (h : Closed s ts) (h' : Closed s ts') : Closed s (ts ++ ts') := by
  refine ⟨by simp [h.closed, h'.closed], fun pre suf e => ?_, fun pre t suf e hp => ?_⟩
  all_goals obtain ⟨more, e', behind⟩ | ⟨more, e', behind⟩ := List.append_eq_append_iff.mp e
  · have := h'.opened more suf behind
    simpa [e', h.closed]
  · exact h.opened pre more e'
  · apply h'.outside more t suf behind
    simpa [e', h.closed] using hp
  · cases more
    case nil => exact h'.outside [] t suf behind.symm rfl
    case cons =>
      cases behind
      exact h.outside pre t _ e' hp

theorem of_forall (h : ∀ t ∈ ts, t.level = 0 ∧ s ≤ t.strength) : Closed s ts := by
  induction ts
  case nil => exact ⟨rfl, by simp, by simp⟩
  case cons t ts hi =>
    have ⟨first, others⟩ := List.forall_mem_cons.mp h
    exact (token first.1 first.2).append (hi others)

theorem parens (h : Closed s ts) : Closed 100 (parenTokens ts) := by
  -- Between the outer parentheses at least one is open.
  have inside (pre suf : List Token) (e : ts ++ [.symbol ")"] = pre ++ suf) (hs : suf ≠ []) :
      0 ≤ nesting pre := by
    obtain ⟨more, e', behind⟩ | ⟨more, e', -⟩ := List.append_eq_append_iff.mp e
    · have : more = [] := by
        cases more
        case nil => rfl
        case cons => simp_all
      simp [e', this, h.closed]
    · exact h.opened pre more e'
  have level : (Token.symbol "(").level = 1 := rfl
  have level' : (Token.symbol ")").level = -1 := rfl
  refine ⟨by simp [parenTokens, h.closed, level, level'], fun pre suf e => ?_,
    fun pre t suf e hp => ?_⟩
  all_goals cases pre
  case refine_1.nil => simp
  case refine_1.cons =>
    injection e with e' e
    subst e'
    by_cases last : suf = []
    case pos =>
      have whole : ts ++ [.symbol ")"] = _ := e.trans (last ▸ List.append_nil _)
      simp [← whole, h.closed, level, level']
    case neg =>
      have := inside _ suf e last
      simp only [nesting_cons, level]
      omega
  case refine_2.nil =>
    cases e
    decide
  case refine_2.cons =>
    injection e with e' e
    subst e'
    have := inside _ _ e (by simp)
    simp only [nesting_cons, level] at hp
    omega

theorem eq_nil_of_split {more : List Token} (hl : Closed s lts) (hl' : Closed s (lts ++ more))
    (hr : Closed (s + 1) rts) (ht : t.level = 0) (ht' : t'.strength = s)
    (e : t :: rts = more ++ t' :: rts') : more = [] := by
  cases more
  case nil => rfl
  case cons =>
    injection e with e' e
    subst e'
    have outer := hr.outside _ t' _ e (by simpa [hl.closed, ht] using hl'.closed)
    omega

-- There is one way to split tokens at the last of the weakest operators outside of parentheses.
theorem split_unique (hl : Closed s lts) (hr : Closed (s + 1) rts) (hl' : Closed s lts')
    (hr' : Closed (s + 1) rts') (hj : Joins kind name s t) (hj' : Joins kind' name' s t')
    (e : lts ++ t :: rts = lts' ++ t' :: rts') : lts = lts' ∧ t = t' ∧ rts = rts' := by
  obtain ⟨more, rfl, behind⟩ | ⟨more, rfl, behind⟩ := List.append_eq_append_iff.mp e
  · obtain rfl := eq_nil_of_split hl hl' hr hj.level hj'.strength behind
    simpa using behind
  · obtain rfl := eq_nil_of_split hl' hl hr' hj'.level hj.strength behind
    simpa [eq_comm] using behind

end Closed

end Nesting

-- Readings without an operator, of which no tokens have two.
structure Atomic (atom : List Token → Node → Prop) : Prop where
  closed : ∀ ts n, atom ts n → Closed 100 ts
  opens : ∀ ts n, atom ts n → ∃ t ts', ts = t :: ts' ∧ t ≠ .symbol "("
  unique : ∀ ts n n', atom ts n → atom ts n' → n = n'

namespace Grouped

theorem closed (ha : Atomic atom) (hn : Grouped atom ts s n) : Closed s ts := by
  induction hn
  case atom h => exact ha.closed _ _ h
  case parens hi => exact hi.parens
  case negation hs hi =>
    have word : Closed 15 [.ofWord "NOT"] := .token rfl (by decide)
    exact word.append (hi.mono hs)
  case join hj _ hs _ hs' hl hr =>
    have operator := (Closed.token hj.level le_rfl).mono hj.strength.ge
    exact (hl.mono hs).append (operator.append (hr.mono hs'.le))

-- The outermost operator stands outside of parentheses.
theorem exists_outside (ha : Atomic atom) (hn : Grouped atom ts s n) :
    ∃ pre t suf, ts = pre ++ t :: suf ∧ nesting pre = 0 ∧ t.strength = s := by
  cases hn
  case atom h =>
    have ⟨t, suf, e, _⟩ := ha.opens _ _ h
    have outer := (ha.closed _ _ h).outside [] t suf e rfl
    exact ⟨[], t, suf, e, rfl, le_antisymm Token.strength_le outer⟩
  case parens => exact ⟨[], _, _, rfl, rfl, by decide⟩
  case negation => exact ⟨[], _, _, rfl, rfl, by decide⟩
  case join hl _ hj hs _ => exact ⟨_, _, _, rfl, (hl.closed ha).closed, hj.strength⟩

theorem strength_unique (ha : Atomic atom) (hn : Grouped atom ts s n)
    (hn' : Grouped atom ts s' n') : s = s' := by
  have le {s s' : Nat} {n n' : Node} (hn : Grouped atom ts s n) (hn' : Grouped atom ts s' n') :
      s ≤ s' := by
    obtain ⟨pre, t, suf, e, hp, rfl⟩ := hn'.exists_outside ha
    exact (hn.closed ha).outside pre t suf e hp
  exact le_antisymm (le hn hn') (le hn' hn)

theorem unique (ha : Atomic atom) (hn : Grouped atom ts s n) (hn' : Grouped atom ts s' n') :
    n = n' := by
  have same := hn.strength_unique ha hn'
  induction hn generalizing s' n'
  case atom h =>
    cases hn'
    case atom h' => exact ha.unique _ _ _ h h'
    case parens =>
      obtain ⟨t, ts, e, ht⟩ := ha.opens _ _ h
      cases e
      contradiction
    case negation => cases same
    case join _ _ hj _ _ => cases hj <;> cases same
  case parens ts _ _ hn hi =>
    generalize e : parenTokens ts = whole at hn'
    cases hn'
    case atom h' =>
      obtain ⟨t, ts, e', ht⟩ := ha.opens _ _ h'
      rw [e'] at e
      cases e
      contradiction
    case parens hn' =>
      obtain rfl : ts = _ := by simpa [parenTokens] using e
      exact hi hn' (hn.strength_unique ha hn')
    case negation => cases same
    case join _ _ hj _ _ => cases hj <;> cases same
  case negation ts _ _ hn _ hi =>
    generalize e : Token.ofWord "NOT" :: ts = whole at hn'
    cases hn'
    case atom | parens => cases same
    case negation hn' _ =>
      obtain rfl : ts = _ := by simpa using e
      rw [hi hn' (hn.strength_unique ha hn')]
    case join _ _ hj _ _ => cases hj <;> cases same
  case join hj hl hs hr hs' hil hir =>
    generalize e : _ ++ _ :: _ = whole at hn'
    cases hn'
    case atom | parens | negation => cases hj <;> cases same
    case join hl' hr' hj' hlt hrt =>
      subst same
      obtain ⟨el, et, er⟩ := Closed.split_unique ((hl.closed ha).mono hs) ((hr.closed ha).mono hs')
        ((hl'.closed ha).mono hlt) ((hr'.closed ha).mono hrt) hj hj' e
      subst el et er
      obtain ⟨rfl, rfl⟩ := hj.same hj'
      rw [hil hl' (hl.strength_unique ha hl'), hir hr' (hr.strength_unique ha hr')]

end Grouped

section Atoms

variable {c : Constant} {names names' : List String}

-- The token is no parenthesis and no operator.
def Token.Inert (t : Token) : Prop := t.level = 0 ∧ t.strength = 100

theorem Token.of_name? (ht : t.name? = some name) : t.isWord ∧ t.Inert := by
  cases t
  case word text k quote =>
    have free : (Token.word text k quote).keyword ∉ booleanWords := by
      intro hk
      simp [name?, hk] at ht
    have no {k' : String} (hk : k' ∈ booleanWords) :
        (Token.word text k quote).isKeyword k' = false := by
      rw [isKeyword, beq_eq_false_iff_ne]
      rintro rfl
      contradiction
    refine ⟨rfl, rfl, ?_⟩
    rw [strength, no (by decide : "OR" ∈ booleanWords), no (by decide : "AND" ∈ booleanWords),
      no (by decide : "NOT" ∈ booleanWords)]
    rfl
  all_goals cases ht

theorem Token.of_constant? (ht : t.constant? = some c) :
    t.Inert ∧ t.name? = none ∧ t ≠ .symbol "(" := by
  unfold constant? at ht
  split at ht
  case h_6 => cases ht
  all_goals exact ⟨⟨rfl, rfl⟩, rfl, nofun⟩

namespace NamePath

theorem inert (h : NamePath ts names) : ∀ t ∈ ts, t.Inert := by
  induction h
  case last ht => simpa using (Token.of_name? ht).2
  case more ht _ hi => simpa using ⟨(Token.of_name? ht).2, ⟨rfl, rfl⟩, hi⟩

theorem exists_cons (h : NamePath ts names) : ∃ t ts', ts = t :: ts' ∧ t.isWord := by
  cases h
  case last ht => exact ⟨_, _, rfl, (Token.of_name? ht).1⟩
  case more ht _ => exact ⟨_, _, rfl, (Token.of_name? ht).1⟩

theorem unique (h : NamePath ts names) (h' : NamePath ts names') : names = names' := by
  induction h generalizing names'
  case last ht =>
    cases h'
    case last ht' => rw [Option.some.inj (ht.symm.trans ht')]
  case more ht h hi =>
    cases h'
    case more ht' h' => rw [Option.some.inj (ht.symm.trans ht'), hi h']

end NamePath

theorem atomic_value : Atomic Value := by
  refine ⟨fun ts n h => ?_, fun ts n h => ?_, fun ts n n' h h' => ?_⟩
  · have inert : ∀ t ∈ ts, t.Inert := by
      cases h
      case const ht => simpa using (Token.of_constant? ht).1
      case column h => exact h.inert
    exact .of_forall fun t ht => ⟨(inert t ht).1, (inert t ht).2.ge⟩
  · cases h
    case const ht => exact ⟨_, _, rfl, (Token.of_constant? ht).2.2⟩
    case column h =>
      have ⟨t, ts, e, word⟩ := h.exists_cons
      exact ⟨t, ts, e, by rintro rfl; cases word⟩
  · cases h
    case const ht =>
      cases h'
      case const ht' => rw [Option.some.inj (ht.symm.trans ht')]
      case column h' =>
        cases h'
        case last ht' => cases (Token.of_constant? ht).2.1.symm.trans ht'
    case column h =>
      cases h'
      case const ht' =>
        cases h
        case last ht => cases (Token.of_constant? ht').2.1.symm.trans ht
      case column h' => rw [h.unique h']

end Atoms

section Parser

-- The expression that the operator makes of its operands.
theorem Joins.exists_infix (h : Joins kind name s t) : ∃ mk op, Infix mk op [t] s ∧
    ∀ l r, (mk l r).toNode = .operator ⟨kind, name, some l.toNode, some r.toNode⟩ := by
  cases h
  case or => exact ⟨_, _, .or, fun _ _ => by rw [Expr.toNode]; rfl⟩
  case and => exact ⟨_, _, .and, fun _ _ => by rw [Expr.toNode]; rfl⟩
  case comparison ho =>
    have known : name ∈ infixSymbols ∧ symbolStrength name = 20 := by
      revert name
      decide
    have ho : Infix (.binary · name ·) name [.symbol name] (symbolStrength name) := .symbol known.1
    refine ⟨_, name, known.2 ▸ ho, fun l r => ?_⟩
    rw [Expr.toNode, operatorNode_symbol known.1]

theorem Joins.smooth (h : Joins kind name s t) : Smooth [t] := by
  cases h
  case comparison ho =>
    have known : Token.symbol name ≠ .symbol "." ∧ Token.symbol name ≠ .symbol "[" := by
      revert name
      decide
    exact .cons known.1 known.2 .nil
  all_goals exact .cons nofun nofun .nil

-- Tokens that the parser reads as the node wherever an operand may stand.
structure ReadsAlone (ts : List Token) (n : Node) : Prop where
  rounded : Rounded ts
  plain : startsExists ts = false
  reads : ∃ e k, Expr.toNode e = n ∧ Reads e ts 100 100 k

theorem Grouped.strength_pos (hn : Grouped atom ts s n) : 0 < s := by
  cases hn
  case join hj _ _ => cases hj <;> decide
  all_goals decide

-- The parser groups the tokens in the same way. A negation may stand behind any operator.
theorem Grouped.exists_reads (ha : ∀ ts n, atom ts n → ReadsAlone ts n)
    (hn : Grouped atom ts s n) : Rounded ts ∧ startsExists ts = false ∧
      ∃ (e : Expr) (g h k : Nat), s ≤ g ∧ (15 ≤ s → 15 < g) ∧ s ≤ h ∧ e.toNode = n ∧
        Reads e ts g h k := by
  induction hn
  case atom h =>
    have ⟨rounded, plain, e, k, he, reads⟩ := ha _ _ h
    exact ⟨rounded, plain, e, 100, 100, k, le_rfl, by simp, le_rfl, he, reads⟩
  case parens hn hi =>
    have ⟨rounded, _, e, g, h, k, hg, _, _, he, reads⟩ := hi
    have nested := reads.nested rounded (hn.strength_pos.trans_le hg)
    exact ⟨.parens rounded.smooth, rfl, .nested e, 100, 100, k + 1, le_rfl, by simp, le_rfl,
      by rw [Expr.toNode, he], nested⟩
  case negation hs hi =>
    have ⟨rounded, plain, e, g, h, k, _, hg, hh, he, reads⟩ := hi
    have negated := reads.negation rounded (hg hs) plain
    exact ⟨.cons rounded.smooth rfl nofun, rfl, .unary "NOT" e, 100, min 15 h, k + 1, by decide,
      by simp, le_min le_rfl (hs.trans hh), by rw [Expr.toNode, he]; rfl, negated⟩
  case join s _ _ _ _ _ _ hj _ hs _ hs' hl hr =>
    have ⟨rounded, plain, l, lg, lh, lk, hlg, _, hlh, hel, reads⟩ := hl
    have ⟨rounded', _, r, rg, rh, rk, hrg, _, hrh, her, reads'⟩ := hr
    have ⟨mk, op, ho, same⟩ := hj.exists_infix
    have joined := reads.dyadic ho rounded.ne_nil (hs.trans hlh) reads' rounded' (hs'.trans_le hrg)
    have grip : s ≤ min lg s := le_min (hs.trans hlg) le_rfl
    have tight : 15 ≤ s → 15 < s := by cases hj <;> decide
    refine ⟨rounded.append ?_, ?_, mk l r, _, _, _, grip, fun h => (tight h).trans_le grip, ?_,
      by rw [same, hel, her], joined⟩
    · exact hj.smooth.append rounded'.smooth
    · obtain ⟨first, behind, rfl, _⟩ := rounded.opens
      exact plain
    · exact le_min le_rfl (hs'.le.trans hrh)

end Parser

end SqlLens.Sql
