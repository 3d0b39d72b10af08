import SqlLens.Proofs.Sql.Clause
import SqlLens.Proofs.Sql.Operation

namespace SqlLens.Sql

open SqlLens.Sql.Parser

variable {depth m k qk g h lg lh lk ug uh uk : Nat} {l l' : Lexeme} {ls rest after : List Lexeme}
  {r : Rules} {ts lts uts : List Token} {e low high right : Expr} {op : String}
  {xs : List (Entry Expr)} {q : Query}

-- The query reads back between parentheses.
structure Enclosable (q : Query) (ts : List Token) (levels : Nat) : Prop where
  reads : ReadsBefore (fun r => r.query) [")"] q ts levels
  opens : Begins (·.beginsQuery) ts
  smooth : Smooth ts

namespace Enclosable

theorem rounded (hq : Enclosable q ts k) : Rounded (parenTokens ts) := .parens hq.smooth

theorem ne_nil (hq : Enclosable q ts k) : ts ≠ [] := by
  have ⟨_, _, e, _⟩ := hq.opens
  simp [e]

theorem prefixExpr (hq : Enclosable q ts k) (hls : ls.map (·.token) = parenTokens ts)
    (hafter : Follows h after) (hm : 4 * ls.length + 1 ≤ m) (hk : k ≤ depth) :
    Yields (prefixExpr (rules m)) depth (ls ++ after) (.subquery q) after := by
  obtain ⟨first, inside, last, rfl, hfirst, hinside, hlast⟩ := exists_parens hls
  obtain ⟨l, rest, rfl, -⟩ := hafter.exists_cons
  have read := hq.reads m depth inside (last :: l :: rest) hinside (by simp at hm; omega) hk
    (stops_closing hlast _)
  obtain ⟨l', inside, rfl, starts⟩ := hq.opens.exists_cons hinside
  simpa using yields_prefixExpr_paren hfirst (yields_parenExpr_query starts hlast read)

theorem existsForm (hq : Enclosable q ts k) (hls : ls.map (·.token) = parenTokens ts)
    (hm : 4 * ls.length + 1 ≤ m) (hk : k ≤ depth) (hafter : Follows h after) (negated : Bool) :
    Yields (existsForm (rules m) negated) depth (ls ++ after) (.exists q negated) after := by
  obtain ⟨l, rest, rfl, -⟩ := hafter.exists_cons
  exact (hq.reads.parenthesized _ _ (by simp) hq.ne_nil hls hm hk).bind .pure

end Enclosable

theorem Reads.subquery (hq : Enclosable q ts k) :
    Reads (.subquery q) (parenTokens ts) 100 100 k :=
  .of_root fun _ _ _ _ hls hm hk hafter =>
    hq.prefixExpr hls hafter (by simp only [Unfolded] at hm; omega) hk

theorem Reads.existence (hq : Enclosable q ts k) :
    Reads (.exists q false) (.ofWord "EXISTS" :: parenTokens ts) 100 100 k := by
  refine .of_root fun m depth ls after hls hm hk hafter => ?_
  obtain ⟨l, ls, rfl, hl, hls⟩ := List.map_eq_cons_iff.mp hls
  have read := hq.existsForm hls (m := m) (by simp [Unfolded] at hm; omega) hk hafter false
  have settled := settled hq.rounded hls hafter
  obtain ⟨l', ls, rfl, -⟩ := hq.rounded.exists_cons hls
  have untyped : Fails (typedLiteral (rules m)) depth (l :: (l' :: ls ++ after)) :=
    fails_typedLiteral hl (by rw [hl]; rfl) settled
  have form : Yields (keywordForm? (rules m) ⟨"EXISTS", none⟩ "EXISTS") depth (l' :: ls ++ after)
      (some (.exists q false)) after := yields_dialect.bind (read.bind .pure)
  exact yields_prefixExpr_word hl untyped (yields_wordExpr_form form)

theorem Reads.nonexistence (hq : Enclosable q ts k) :
    Reads (.exists q true) (.ofWord "NOT" :: .ofWord "EXISTS" :: parenTokens ts) 100 100 k := by
  refine .of_root fun m depth ls after hls hm hk hafter => ?_
  obtain ⟨l, ls, rfl, hl, hls⟩ := List.map_eq_cons_iff.mp hls
  obtain ⟨l', ls, rfl, hl', hls'⟩ := List.map_eq_cons_iff.mp hls
  have read := hq.existsForm hls' (m := m) (by simp [Unfolded] at hm; omega) hk hafter true
  have behind : Rounded (.ofWord "EXISTS" :: parenTokens ts) :=
    .cons hq.rounded.smooth rfl (by rintro ⟨⟩)
  have settled := settled behind hls hafter
  obtain ⟨l'', ls, rfl, -⟩ := hq.rounded.exists_cons hls'
  have untyped : Fails (typedLiteral (rules m)) depth (l :: l' :: (l'' :: ls ++ after)) :=
    fails_typedLiteral hl (by rw [hl]; rfl) settled
  have taken : Yields (keyword? "EXISTS") depth (l' :: (l'' :: ls ++ after)) true
      (l'' :: ls ++ after) := yields_keyword (by rw [hl']; rfl) (by decide)
  have operand : Yields (notForm (rules m)) depth (l' :: (l'' :: ls ++ after)) (.exists q true)
      after := taken.bind read
  have form : Yields (keywordForm? (rules m) ⟨"NOT", none⟩ "NOT") depth (l' :: (l'' :: ls ++ after))
      (some (.exists q true)) after := yields_dialect.bind (operand.bind .pure)
  exact yields_prefixExpr_word hl untyped (yields_wordExpr_form form)

section Lists

theorem Rounded.begins (hts : Rounded ts) : Begins (·.opens) ts := by
  obtain ⟨t, ts', e, opens, _⟩ := hts.opens
  exact ⟨t, ts', e, opens⟩

-- Expressions in parentheses.
theorem listed_exprs (depth : Nat) {last : Lexeme} (hxs : xs ≠ [])
    (each : ∀ x ∈ xs, Reads x.tree x.tokens 1 0 k) (shape : ∀ x ∈ xs, Rounded x.tokens)
    (hls : ls.map (·.token) = commaTokens (xs.map (·.tokens))) (hm : 4 * ls.length + 9 ≤ m)
    (hk : k + 1 ≤ depth) (hlast : last.token = .symbol ")") (rest : List Lexeme) :
    Listed ((rules m).expr 0) (fun l => l.token.opens) depth (ls ++ last :: rest)
      (xs.map (·.tree)) (last :: rest) :=
  listed _ depth (p := fun r => r.expr 0) hxs
    (fun x hx => (each x hx).before (by simp) (by decide : [",", ")"] ⊆ clauseStops))
    (fun x hx => (shape x hx).begins) (by simp) (by simp) (by decide) hls hm hk
    (stops_closing hlast rest)

theorem Reads.tuple (several : 2 ≤ xs.length) (each : ∀ x ∈ xs, Reads x.tree x.tokens 1 0 k)
    (shape : ∀ x ∈ xs, Rounded x.tokens) :
    Reads (.tuple (xs.map (·.tree))) (parenTokens (commaTokens (xs.map (·.tokens)))) 100 100
      (k + 1) := by
  have hxs : xs ≠ [] := by
    rintro rfl
    cases several
  refine .of_root fun m depth ls after hls hm hk hafter => ?_
  obtain ⟨first, inside, last, rfl, hfirst, hinside, hlast⟩ := exists_parens hls
  obtain ⟨l, rest, rfl, -⟩ := hafter.exists_cons
  have listed := listed_exprs depth hxs each shape hinside (m := m)
    (by simp [Unfolded] at hm; omega) hk hlast (l :: rest)
  have begins : Begins _ (commaTokens (xs.map (·.tokens))) :=
    .commas (by simpa using hxs) (by simpa using fun x hx => (shape x hx).begins)
  obtain ⟨l', inside, rfl, opens⟩ := begins.exists_cons hinside
  have tuple : grouped (xs.map (·.tree)) = .tuple (xs.map (·.tree)) := by
    obtain _ | ⟨x, _ | ⟨x', xs⟩⟩ := xs
    case cons.nil => simp at several
    all_goals rfl
  simpa [tuple] using yields_prefixExpr_paren hfirst (yields_parenExpr_list opens hlast listed)

theorem Reads.among (negated : Bool) (he : Reads e ts g h k) (hts : ts ≠ []) (hh : 20 ≤ h)
    (hxs : xs ≠ []) (each : ∀ x ∈ xs, Reads x.tree x.tokens 1 0 lk)
    (shape : ∀ x ∈ xs, Rounded x.tokens)
    (hq : startsQuery (commaTokens (xs.map (·.tokens))) = false) :
    Reads (.inList e (xs.map (·.tree)) negated)
      (ts ++ (notTokens negated ++ .ofWord "IN" :: parenTokens (commaTokens (xs.map (·.tokens)))))
      (min g 20) 100 (max k (max (lk + 1) (openings (commaTokens (xs.map (·.tokens))) + 1))) := by
  refine he.extend (announces_negatable negated (.inl rfl)) hh
    (fun m depth ls after hls hm hk hafter => ?_) hts
  rw [List.append_cons] at hls
  obtain ⟨words, behind, rfl, hwords, hbehind⟩ := List.map_eq_append_iff.mp hls
  obtain ⟨first, inside, last, rfl, hfirst, hinside, hlast⟩ := exists_parens hbehind
  obtain ⟨l, rest, rfl, -⟩ := hafter.exists_cons
  have listed := listed_exprs depth (m := m) hxs each shape hinside
    (by simp at hm; omega) (by omega) hlast (l :: rest)
  have fails : Fails (rules m).query depth (inside ++ last :: l :: rest) :=
    fails_query hinside hq hlast (by simp [Unfolded] at hm ⊢; omega) (by omega)
  have begins : Begins _ (commaTokens (xs.map (·.tokens))) :=
    .commas (by simpa using hxs) (by simpa using fun x hx => (shape x hx).begins)
  obtain ⟨l', inside, rfl, opens⟩ := begins.exists_cons hinside
  have list := yields_inForm_list (e := e) negated hfirst hlast fails listed
  simpa using yields_in negated hwords list

theorem Reads.amongRows (negated : Bool) (he : Reads e ts g h k) (hts : ts ≠ []) (hh : 20 ≤ h)
    (hq : Enclosable q lts qk) :
    Reads (.inQuery e q negated) (ts ++ (notTokens negated ++ .ofWord "IN" :: parenTokens lts))
      (min g 20) 100 (max k qk) := by
  refine he.extend (announces_negatable negated (.inl rfl)) hh
    (fun m depth ls after hls hm hk hafter => ?_) hts
  rw [List.append_cons] at hls
  obtain ⟨words, behind, rfl, hwords, hbehind⟩ := List.map_eq_append_iff.mp hls
  obtain ⟨first, inside, last, rfl, hfirst, hinside, hlast⟩ := exists_parens hbehind
  obtain ⟨l, rest, rfl, -⟩ := hafter.exists_cons
  have read := hq.reads m depth inside (last :: l :: rest) hinside (by simp at hm; omega) hk
    (stops_closing hlast _)
  obtain ⟨l', inside, rfl, -⟩ := hq.opens.exists_cons hinside
  have rows := yields_inForm_query (e := e) negated hfirst hlast read
  simpa using yields_in (s := 20) negated hwords rows

end Lists

section Ranges

theorem Reads.range (negated : Bool) (he : Reads e ts g h k) (hts : ts ≠ []) (hh : 20 ≤ h)
    (hlow : Reads low lts lg lh lk) (lower : Rounded lts) (hlg : 20 < lg) (hlh : 10 ≤ lh)
    (hhigh : Reads high uts ug uh uk) (upper : Rounded uts) (hug : 20 < ug) :
    Reads (.between e negated low high)
      (ts ++ (notTokens negated ++ .ofWord "BETWEEN" :: (lts ++ .ofWord "AND" :: uts)))
      (min g 20) (min 20 uh) (max k (max lk uk + 1)) := by
  refine he.extend (announces_negatable negated (.inr rfl)) hh
    (fun m depth ls after hls hm hk hafter => ?_) hts
  rw [List.append_cons] at hls
  obtain ⟨words, behind, rfl, hwords, hbehind⟩ := List.map_eq_append_iff.mp hls
  obtain ⟨below, behind, rfl, hbelow, hbehind⟩ := List.map_eq_append_iff.mp hbehind
  obtain ⟨l, above, rfl, hl, habove⟩ := List.map_eq_cons_iff.mp hbehind
  have next : Announces [.ofWord "AND"] 10 := Infix.and.announces
  have readHigh := hhigh.expr depth (m := m) habove (by simp at hm; omega) (by omega) hug
    (hafter.mono (by simp)) (hafter.mono (by simp))
  obtain ⟨l', above, rfl, -⟩ := upper.exists_cons habove
  have and (j : Nat) (hj : 10 ≤ j) : Follows j ([l] ++ l' :: (above ++ after)) :=
    next.follows (by simp [hl]) hj
  have readLow := hlow.expr depth (m := m) hbelow (by simp at hm; omega) (by omega)
    hlg (and lh hlh) (and 20 (by simp))
  obtain ⟨l'', below, rfl, -⟩ := lower.exists_cons hbelow
  have := yields_between (s := 20) (e := e) negated hwords hl readLow readHigh
  simpa using this

end Ranges

section Tests

theorem announces_is (ts : List Token) : Announces (.ofWord "IS" :: ts) 17 := by
  refine ⟨⟨_, _, rfl, rfl⟩, fun depth ls l after hls => ?_⟩
  obtain ⟨p, gap, ls, rfl, -⟩ := exists_lexemes hls
  rfl

theorem Reads.isNull (negated : Bool) (he : Reads e ts g h k) (hts : ts ≠ []) (hh : 17 ≤ h) :
    Reads (.isNull e negated) (ts ++ .ofWord "IS" :: (notTokens negated ++ [.ofWord "NULL"]))
      (min g 17) 100 k := by
  rw [← Nat.max_self k]
  refine he.extend (announces_is _) hh (fun m depth ls after hls hm hk hafter => ?_) hts
  obtain ⟨l, rest, rfl, -⟩ := hafter.exists_cons
  obtain ⟨p, gap, ls, rfl, hls'⟩ := exists_lexemes hls
  cases negated
  case false =>
    obtain ⟨p', gap', rfl⟩ := exists_lexeme hls'
    rfl
  case true =>
    obtain ⟨p', gap', ls, rfl, hls''⟩ := exists_lexemes hls'
    obtain ⟨p'', gap'', rfl⟩ := exists_lexeme hls''
    rfl

-- What the truth of a condition is compared with.
def truthWords : List String := ["TRUE", "FALSE", "UNKNOWN"]

def notWord (negated : Bool) : String := if negated then "NOT " else ""

theorem Reads.isTruth {word : String} (hw : word ∈ truthWords) (negated : Bool)
    (he : Reads e ts g h k) (hts : ts ≠ []) (hh : 17 ≤ h) :
    Reads (.phrase (Phrase.expr e ++ Phrase.words (" IS " ++ notWord negated ++ word)))
      (ts ++ .ofWord "IS" :: (notTokens negated ++ [.ofWord word])) (min g 17) 100 k := by
  rw [← Nat.max_self k]
  refine he.extend (announces_is _) hh (fun m depth ls after hls hm hk hafter => ?_) hts
  obtain ⟨l, rest, rfl, -⟩ := hafter.exists_cons
  obtain ⟨p, gap, ls, rfl, hls'⟩ := exists_lexemes hls
  cases negated
  case false =>
    obtain ⟨p', gap', rfl⟩ := exists_lexeme hls'
    fin_cases hw <;> rfl
  case true =>
    obtain ⟨p', gap', ls, rfl, hls''⟩ := exists_lexemes hls'
    obtain ⟨p'', gap'', rfl⟩ := exists_lexeme hls''
    fin_cases hw <;> rfl

end Tests

section Quantifiers

theorem comparison_mem (ho : op ∈ Words.comparisons) : op ∈ infixSymbols := by
  revert op
  decide

theorem announces_comparison (ho : op ∈ Words.comparisons) (ts : List Token) :
    Announces (.symbol op :: ts) 20 := by
  have strength : symbolStrength op = 20 := by
    revert op
    decide
  have := (Infix.symbol (comparison_mem ho)).announces.append ts
  rw [strength] at this
  simpa using this

def quantifierWord (all : Bool) : String := if all then "ALL" else "ANY"

-- A comparison with every or with some value.
def compared (all : Bool) (e : Expr) (op : String) (right : Expr) : Expr :=
  if all then .compareAll e op right else .compareAny e op right false

-- The right side of a comparison behind a quantifier.
theorem yields_rightSide_quantifier {p : Position} {first : Lexeme} {s : Nat} (all : Bool)
    (hl : l.token = .ofWord (quantifierWord all)) (ho : op ∈ Words.comparisons)
    (hfirst : first.token = .symbol "(")
    (h : Yields (if l'.token.beginsQuery then r.expr s
      else parenthesized (r.expr s)) depth (first :: l' :: ls) right rest) :
    Yields (rightSide r e op p s) depth (l :: first :: l' :: ls) (compared all e op right) rest := by
  have allowed : Words.comparisons.contains op = true := by simpa using ho
  have taken : Yields (oneOf? ["ANY", "ALL", "SOME"]) depth (l :: first :: l' :: ls)
      (some (quantifierWord all)) (first :: l' :: ls) := by
    obtain ⟨t, p, g⟩ := l
    cases all <;> cases hl <;> rfl
  refine taken.bind ?_
  have second : Yields (tokenAt 1) depth (first :: l' :: ls) l'.token (first :: l' :: ls) := rfl
  have paren : first.token.isSymbol "(" = true := hfirst ▸ rfl
  have side : Yields (do
      if (← peekSymbol "(") && (l'.token.isKeyword "SELECT" || l'.token.isKeyword "WITH") then
        r.expr s
      else parenthesized (r.expr s)) depth (first :: l' :: ls) right rest := by
    refine (yields_peekSymbol "(").bind ?_
    rw [paren, Bool.true_and]
    exact h
  refine second.bind (second.bind (side.bind ?_))
  simp only [allowed]
  cases all <;> exact .pure

theorem Reads.quantified (all : Bool) (ho : op ∈ Words.comparisons) (he : Reads e ts g h k)
    (hts : ts ≠ []) (hh : 20 ≤ h) (hr : Reads right lts lg lh lk) (shape : Rounded lts)
    (hg : 20 < lg) :
    Reads (compared all e op right)
      (ts ++ .symbol op :: .ofWord (quantifierWord all) :: parenTokens lts) (min g 20) 100
      (max k (lk + 1)) := by
  refine he.extend (announces_comparison ho _) hh (fun m depth ls after hls hm hk hafter => ?_) hts
  obtain ⟨p, gap, ls, rfl, hls'⟩ := exists_lexemes hls
  obtain ⟨word, ls, rfl, hword, hls''⟩ := List.map_eq_cons_iff.mp hls'
  obtain ⟨first, inside, last, rfl, hfirst, hinside, hlast⟩ := exists_parens hls''
  obtain ⟨l', rest, rfl, -⟩ := hafter.exists_cons
  have closing {s : Nat} : Follows s (last :: l' :: rest) :=
    (stops_closing hlast _).follows (by decide)
  have read := hr.expr depth (m := m) hinside (by simp at hm; omega) (by omega) hg closing
    closing
  obtain ⟨first', inside, rfl, opens⟩ := shape.exists_cons hinside
  have starts : first'.token.beginsQuery = false := by
    simp [Token.opens, Token.beginsQuery, Token.isKeyword] at opens ⊢
    tauto
  have parens := yields_parenthesized hfirst hlast read
  have side := yields_rightSide_quantifier (e := e) (p := p) all hword ho hfirst
    (by rw [starts]; exact parens)
  have whole := yields_infixExpr_symbol (l := ⟨.symbol op, p, gap⟩) (comparison_mem ho) rfl side
  simpa using whole

theorem Reads.quantifiedRows (all : Bool) (ho : op ∈ Words.comparisons) (he : Reads e ts g h k)
    (hts : ts ≠ []) (hh : 20 ≤ h) (hq : Enclosable q lts qk) :
    Reads (compared all e op (.subquery q))
      (ts ++ .symbol op :: .ofWord (quantifierWord all) :: parenTokens lts) (min g 20) 20
      (max k (qk + 1)) := by
  refine he.extend (announces_comparison ho _) hh (fun m depth ls after hls hm hk hafter => ?_) hts
  obtain ⟨p, gap, ls, rfl, hls'⟩ := exists_lexemes hls
  obtain ⟨word, ls, rfl, hword, hls''⟩ := List.map_eq_cons_iff.mp hls'
  have read := (Reads.subquery hq).expr depth (m := m) hls''
    (by simp at hm; omega) (by omega) (by simp) (hafter.mono (by simp)) hafter
  obtain ⟨first, inside, last, rfl, hfirst, hinside, hlast⟩ := exists_parens hls''
  obtain ⟨l, inside, rfl, starts⟩ := hq.opens.exists_cons hinside
  have side := yields_rightSide_quantifier (e := e) (p := p) (r := rules m) all hword ho hfirst
    (by rw [starts]; exact read)
  have whole := yields_infixExpr_symbol (l := ⟨.symbol op, p, gap⟩) (comparison_mem ho) rfl side
  simpa using whole

end Quantifiers

end SqlLens.Sql
