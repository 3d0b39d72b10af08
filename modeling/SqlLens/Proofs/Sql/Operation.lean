import SqlLens.Proofs.Sql.Operand
import SqlLens.Sql.ToNode

namespace SqlLens.Sql

open SqlLens.Sql.Parser

variable {depth m k g h s lg lh lk rg rh rk : Nat} {l l' : Lexeme} {ls rest mid after : List Lexeme}
  {r : Rules} {t : Token} {ts lts rts : List Token} {e e' root : Expr} {mk : Expr → Expr → Expr}
  {op text : String}

-- Tokens that go on with an expression, and how tightly they bind it.
structure Announces (ts : List Token) (s : Nat) : Prop where
  first : ∃ t ts', ts = t :: ts' ∧ t.follows
  next : ∀ depth ls l after, ls.map (·.token) = ts →
    Yields nextStrength depth (ls ++ l :: after) s (ls ++ l :: after)

theorem Announces.exists_cons (ha : Announces ts s) (hls : ls.map (·.token) = ts) :
    ∃ l rest, ls = l :: rest ∧ l.token.follows := by
  obtain ⟨t, ts', rfl, hl⟩ := ha.first
  obtain ⟨l, rest, rfl, rfl, -⟩ := List.map_eq_cons_iff.mp hls
  exact ⟨l, rest, rfl, hl⟩

theorem Announces.follows (ha : Announces ts s) (hls : ls.map (·.token) = ts) (hs : s ≤ k) :
    Follows k (ls ++ l :: after) := by
  obtain ⟨first, rest, rfl, hl⟩ := ha.exists_cons hls
  exact ⟨first, _, rfl, hl, fun depth => ⟨s, hs, ha.next depth _ l after hls⟩⟩

theorem Announces.append (ha : Announces ts s) (ts' : List Token) : Announces (ts ++ ts') s := by
  obtain ⟨t, more, rfl, ht⟩ := ha.first
  refine ⟨⟨t, more ++ ts', rfl, ht⟩, fun depth ls l after hls => ?_⟩
  obtain ⟨here, behind, rfl, hhere, -⟩ := List.map_eq_append_iff.mp hls
  cases behind
  case nil => simpa using ha.next depth here l after hhere
  case cons l' behind => simpa using ha.next depth here l' (behind ++ l :: after) hhere

-- An operator that goes on with an operand, as read in the last round of the loop over operators.
theorem Reads.extend (he : Reads e lts lg lh lk) (ha : Announces ts s) (hs : s ≤ lh)
    (extend : ∀ m depth ls after, ls.map (·.token) = ts → 4 * ls.length + 12 ≤ m → k ≤ depth →
      Follows h after → Yields (infixExpr (rules m) e s) depth (ls ++ after) e' after)
    (hlts : lts ≠ []) :
    Reads e' (lts ++ ts) (min lg s) h (max lk k) := by
  intro m depth strength ls after hls hm hk hg hafter
  obtain ⟨here, behind, rfl, hhere, hbehind⟩ := List.map_eq_append_iff.mp hls
  have some : here.length ≠ 0 := by
    rintro e
    rw [List.length_eq_zero_iff.mp e] at hhere
    exact hlts hhere.symm
  simp only [Unfolded, List.length_append] at hm
  obtain ⟨l, rest, rfl, -⟩ := hafter.exists_cons
  obtain ⟨e₁, mid, head, hmid, loop⟩ :=
    he m depth strength here (behind ++ l :: rest) hhere (by simp only [Unfolded]; omega) (by omega)
      (by omega) (ha.follows hbehind hs)
  have read := extend m depth behind (l :: rest) hbehind (by omega) (by omega) hafter
  have next := ha.next depth behind l rest hbehind
  obtain ⟨first, behind, rfl, hfirst⟩ := ha.exists_cons hbehind
  have last : Advances (extended (rules m) strength) depth (e, first :: behind ++ l :: rest)
      (e', l :: rest) := by
    have loose : ¬s ≤ strength := by omega
    have point : first.token.isSymbol "." = false := Token.isSymbol_of_isAmong hfirst (by decide)
    refine ⟨next.bind ((yields_peekSymbol ".").bind ?_), by grind⟩
    simp only [ge_iff_le, loose, decide_false, point, Bool.or_self, Bool.false_eq_true, if_false]
    exact read.bind .pure
  refine ⟨e₁, mid, ?_, hmid, loop.tail last⟩
  simpa using head

theorem not_quantifier (hl : l.token.opens) :
    ["ANY", "ALL", "SOME"].contains l.token.keyword = false := by
  simp [Token.opens] at hl ⊢
  tauto

theorem yields_like (caseless negated : Bool) {pattern : Expr}
    (hls : ls.map (·.token) =
      notTokens negated ++ [.ofWord (if caseless then "ILIKE" else "LIKE")])
    (hl' : l'.token.opens) (hafter : Follows k after)
    (read : Yields (r.expr 19) depth (l' :: rest) pattern after) :
    Yields (infixExpr r e s) depth (ls ++ l' :: rest)
      (.like caseless negated false e pattern none) after := by
  have stops := hafter.stops
  have any : Yields (keyword? "ANY") depth (l' :: rest) false (l' :: rest) := by
    apply yields_no_keyword
    simp [Token.opens, Token.isKeyword] at hl' ⊢
    tauto
  have escape : Yields escape? depth after none after := stops.no_after (by decide)
  have tail : Yields (do
      let any ← keyword? "ANY"
      let pattern ← r.expr 19
      return Expr.like caseless negated any e pattern (← escape?)) depth (l' :: rest)
        (.like caseless negated false e pattern none) after :=
    any.bind (read.bind (escape.bind .pure))
  cases negated
  case false =>
    obtain ⟨p, gap, rfl⟩ := exists_lexeme hls
    cases caseless <;> exact tail
  case true =>
    obtain ⟨p, gap, ls, rfl, hls'⟩ := exists_lexemes hls
    obtain ⟨p', gap', rfl⟩ := exists_lexeme hls'
    cases caseless <;> exact tail

theorem yields_rightSide {right : Expr} {p : Position} (hl : l.token.opens)
    (read : Yields (r.expr s) depth (l :: ls) right rest) :
    Yields (rightSide r e op p s) depth (l :: ls) (.binary e op right) rest := by
  refine (yields_no_oneOf (not_quantifier hl)).bind ?_
  exact read.bind .pure

theorem yields_infixExpr_symbol (ho : op ∈ infixSymbols) (hl : l.token = .symbol op)
    (right : Yields (rightSide r e op l.start s) depth (l' :: ls) root rest) :
    Yields (infixExpr r e s) depth (l :: l' :: ls) root rest := by
  have known : binaryOperator? .generic (.symbol op) = some op := by fin_cases ho <;> rfl
  have colon : (op == ":") = false := by fin_cases ho <;> rfl
  obtain ⟨t, p, g⟩ := l
  cases hl
  refine yields_dialect.bind (yields_lexeme.bind ?_)
  simp only [Token.isSymbol, colon, known]
  exact right

theorem yields_nextStrength_symbol (ho : op ∈ infixSymbols) (hl : l.token = .symbol op) :
    Yields nextStrength depth (l :: ls) (symbolStrength op) (l :: ls) := by
  obtain ⟨t, p, g⟩ := l
  cases hl
  fin_cases ho <;> rfl

theorem Infix.announces (hi : Infix mk text ts s) : Announces ts s := by
  cases hi
  case symbol ho =>
    refine ⟨⟨_, _, rfl, ?_⟩, fun depth ls l after hls => ?_⟩
    · revert ho text
      decide
    · obtain ⟨first, rfl, hfirst⟩ := List.map_eq_singleton_iff.mp hls
      exact yields_nextStrength_symbol ho hfirst
  case like caseless negated =>
    cases caseless <;> cases negated
    all_goals
      refine ⟨⟨_, _, rfl, rfl⟩, fun depth ls l after hls => ?_⟩
      obtain ⟨p, gap, ls, rfl, hls'⟩ := exists_lexemes hls
      first
      | obtain rfl := List.map_eq_nil_iff.mp hls'
        rfl
      | obtain ⟨p', gap', rfl⟩ := exists_lexeme hls'
        rfl
  case zone =>
    refine ⟨⟨_, _, rfl, rfl⟩, fun depth ls l after hls => ?_⟩
    obtain ⟨p, gap, ls, rfl, hls'⟩ := exists_lexemes hls
    obtain ⟨p', gap', ls, rfl, hls''⟩ := exists_lexemes hls'
    obtain ⟨p'', gap'', rfl⟩ := exists_lexeme hls''
    rfl
  all_goals
    refine ⟨⟨_, _, rfl, rfl⟩, fun depth ls l after hls => ?_⟩
    obtain ⟨p, gap, rfl⟩ := exists_lexeme hls
    rfl

theorem Infix.yields {right : Expr} (hi : Infix mk text ts s) (hls : ls.map (·.token) = ts)
    (hl' : l'.token.opens) (hafter : Follows k after)
    (read : Yields (r.expr s) depth (l' :: rest) right after) :
    Yields (infixExpr r e s) depth (ls ++ l' :: rest) (mk e right) after := by
  cases hi
  case symbol ho =>
    obtain ⟨first, rfl, hfirst⟩ := List.map_eq_singleton_iff.mp hls
    exact yields_infixExpr_symbol ho hfirst (yields_rightSide hl' read)
  case like caseless negated => exact yields_like caseless negated hls hl' hafter read
  case zone =>
    obtain ⟨p, gap, ls, rfl, hls'⟩ := exists_lexemes hls
    obtain ⟨p', gap', ls, rfl, hls''⟩ := exists_lexemes hls'
    obtain ⟨p'', gap'', rfl⟩ := exists_lexeme hls''
    have words : Yields (expectKeywords ["TIME", "ZONE"]) depth
        (⟨.ofWord "TIME", p', gap'⟩ :: ⟨.ofWord "ZONE", p'', gap''⟩ :: l' :: rest) ()
        (l' :: rest) := rfl
    have tail : Yields (do
        expectKeywords ["TIME", "ZONE"]
        return Expr.phrase (Phrase.expr e ++ Phrase.words " AT TIME ZONE " ++
          Phrase.expr (← r.expr 41)))
        depth (⟨.ofWord "TIME", p', gap'⟩ :: ⟨.ofWord "ZONE", p'', gap''⟩ :: l' :: rest)
        (.phrase (Phrase.expr e ++ Phrase.words " AT TIME ZONE " ++ Phrase.expr right)) after :=
      words.bind (read.bind .pure)
    exact tail
  all_goals
    obtain ⟨p, gap, rfl⟩ := exists_lexeme hls
    exact yields_rightSide hl' read

theorem Reads.dyadic {right : Expr} (hi : Infix mk text ts s) (hl : Reads e lts lg lh lk)
    (hlts : lts ≠ []) (hs : s ≤ lh) (hr : Reads right rts rg rh rk) (hrts : Rounded rts)
    (hg : s < rg) :
    Reads (mk e right) (lts ++ (ts ++ rts)) (min lg s) (min s rh) (max lk (rk + 1)) := by
  refine hl.extend (hi.announces.append _) hs (fun m depth ls after hls hm hk hafter => ?_) hlts
  obtain ⟨here, behind, rfl, hhere, hbehind⟩ := List.map_eq_append_iff.mp hls
  have read := hr.expr _ hbehind (m := m) (by simp at hm; omega) hk hg (hafter.mono (by simp))
    (hafter.mono (by simp))
  obtain ⟨first, behind, rfl, opens⟩ := hrts.exists_cons hbehind
  simpa using hi.yields (e := e) hhere opens hafter read

-- Words that a query may begin with.
def queryWords : List String :=
  ["SELECT", "FROM", "WITH", "VALUES", "VALUE", "TABLE", "INSERT", "UPDATE", "DELETE", "MERGE"]

theorem isKeyword_of_not_query {k : String} (hl : queryWords.contains t.keyword = false)
    (hk : k ∈ queryWords) : t.isKeyword k = false := by
  rw [Token.isKeyword, beq_eq_false_iff_ne]
  rintro rfl
  simp [hk] at hl

section Body

variable (hl : queryWords.contains l.token.keyword = false)

include hl

theorem fails_simpleBody_paren (hp : l.token.isSymbol "(")
    (h : Fails (parenthesized r.query) depth (l :: ls)) :
    Fails (simpleBody r) depth (l :: ls) := by
  refine .bind_right yields_dialect (.bind_right (yields_peekKeyword "SELECT")
    (.bind_right (yields_peekKeyword "FROM") ?_))
  rw [isKeyword_of_not_query hl (by decide : "SELECT" ∈ queryWords),
    isKeyword_of_not_query hl (by decide : "FROM" ∈ queryWords)]
  refine .bind_right (yields_peekSymbol "(") ?_
  rw [hp]
  exact h.bind_left

theorem fails_simpleBody (hp : l.token.isSymbol "(" = false) :
    Fails (simpleBody r) depth (l :: ls) := by
  have no {k : String} (hk : k ∈ queryWords) :
      Yields (keyword? k) depth (l :: ls) false (l :: ls) :=
    yields_no_keyword (isKeyword_of_not_query hl hk)
  refine .bind_right yields_dialect (.bind_right (yields_peekKeyword "SELECT")
    (.bind_right (yields_peekKeyword "FROM") ?_))
  rw [isKeyword_of_not_query hl (by decide : "SELECT" ∈ queryWords),
    isKeyword_of_not_query hl (by decide : "FROM" ∈ queryWords)]
  refine .bind_right (yields_peekSymbol "(") ?_
  rw [hp]
  refine .bind_right (no (by decide)) ?_
  refine .bind_right (no (by decide)) (.bind_right (no (by decide)) ?_)
  exact .bind_right yields_lexeme (fails_expectedAt _ _)

theorem fails_query_of_body (h : Fails (simpleBody (rules m)) depth (l :: ls)) :
    Fails (rules (m + 2)).query (depth + 1) (l :: ls) := by
  have change : Yields (peekAny ["INSERT", "UPDATE", "DELETE", "MERGE"]) depth (l :: ls) false
      (l :: ls) := by
    have : ["INSERT", "UPDATE", "DELETE", "MERGE"].contains l.token.keyword = false := by
      simp [queryWords] at hl ⊢
      tauto
    exact this ▸ rfl
  have body : Fails ((rules (m + 1)).body 0) depth (l :: ls) := h.bind_left
  have unnamed : l.token.isKeyword "WITH" = false := isKeyword_of_not_query hl (by decide)
  refine Fails.deeper (.bind_right (a := (false, [])) ?_ (.bind_right change body.bind_left))
  exact (yields_no_keyword unnamed).bind .pure

end Body

-- A list does not read as a query, whatever parentheses stand in front of it.
theorem fails_query (hls : ls.map (·.token) = ts) (hts : startsQuery ts = false)
    (hl : l.token = .symbol ")") (hm : Unfolded m ls) (hk : openings ts + 1 ≤ depth) :
    Fails (rules m).query depth (ls ++ l :: rest) := by
  induction ts generalizing ls m depth
  all_goals
    obtain ⟨depth, rfl⟩ : ∃ depth', depth = depth' + 1 := ⟨depth - 1, by omega⟩
    obtain ⟨m, rfl⟩ : ∃ m', m = m' + 2 := ⟨m - 2, by simp only [Unfolded] at hm; omega⟩
  case nil =>
    obtain rfl := List.map_eq_nil_iff.mp hls
    have word : queryWords.contains l.token.keyword = false := hl ▸ rfl
    exact fails_query_of_body word (fails_simpleBody word (by rw [hl]; rfl))
  case cons t ts hi =>
    obtain ⟨first, ls, rfl, rfl, hls'⟩ := List.map_eq_cons_iff.mp hls
    cases hp : first.token.isSymbol "("
    case false =>
      have word : queryWords.contains first.token.keyword = false := by
        simpa [startsQuery, hp, queryWords] using hts
      exact fails_query_of_body word (fails_simpleBody word hp)
    case true =>
      have paren := Token.eq_of_isSymbol hp
      have word : queryWords.contains first.token.keyword = false := by rw [paren]; rfl
      have inner : Fails (rules m).query depth (ls ++ l :: rest) := by
        refine hi hls' (by simpa [startsQuery, hp] using hts) ?_ ?_
        · simp only [Unfolded, List.length_cons] at hm ⊢
          omega
        · simp only [openings, List.takeWhile_cons, hp, if_true, List.length_cons] at hk ⊢
          omega
      have taken : Yields (expectSymbol "(") depth (first :: ls ++ l :: rest) ()
          (ls ++ l :: rest) := by
        cases ls <;> exact yields_expectSymbol paren
      have entered : Fails (parenthesized (rules m).query) depth (first :: ls ++ l :: rest) :=
        .bind_right taken inner.bind_left
      exact fails_query_of_body word (fails_simpleBody_paren word hp entered)

section Ranges

variable {first last low high : Lexeme} {es : List Expr} {query : Query} {lower upper : Expr}
  {starts : Lexeme → Prop}

theorem announces_negatable {word : String} (negated : Bool) (hw : word = "IN" ∨ word = "BETWEEN") :
    Announces (notTokens negated ++ .ofWord word :: ts) 20 := by
  obtain rfl | rfl := hw
  all_goals
    cases negated
    case false =>
      refine ⟨⟨_, _, rfl, rfl⟩, fun depth ls l after hls => ?_⟩
      obtain ⟨p, gap, ls, rfl, -⟩ := exists_lexemes hls
      rfl
    case true =>
      refine ⟨⟨_, _, rfl, rfl⟩, fun depth ls l after hls => ?_⟩
      obtain ⟨p, gap, ls, rfl, hls'⟩ := exists_lexemes hls
      obtain ⟨p', gap', ls, rfl, -⟩ := exists_lexemes hls'
      rfl

theorem yields_in (negated : Bool) (hls : ls.map (·.token) = notTokens negated ++ [.ofWord "IN"])
    (h : Yields (inForm r e negated) depth (l :: rest) root after) :
    Yields (infixExpr r e s) depth (ls ++ l :: rest) root after := by
  cases negated
  case false =>
    obtain ⟨p, gap, rfl⟩ := exists_lexeme hls
    exact h
  case true =>
    obtain ⟨p, gap, ls, rfl, hls'⟩ := exists_lexemes hls
    obtain ⟨p', gap', rfl⟩ := exists_lexeme hls'
    exact h

theorem yields_between (negated : Bool)
    (hls : ls.map (·.token) = notTokens negated ++ [.ofWord "BETWEEN"])
    (hand : l'.token = .ofWord "AND")
    (hlow : Yields (r.expr 20) depth (l :: rest) lower (l' :: high :: mid))
    (hhigh : Yields (r.expr 20) depth (high :: mid) upper after) :
    Yields (infixExpr r e s) depth (ls ++ l :: rest) (.between e negated lower upper) after := by
  have taken : Yields (expectKeyword "AND") depth (l' :: high :: mid) () (high :: mid) :=
    (yields_keyword (by rw [hand]; rfl) (by decide)).bind .pure
  have tail : Yields (do
      let low ← r.expr 20
      expectKeyword "AND"
      return Expr.between e negated low (← r.expr 20)) depth (l :: rest)
        (.between e negated lower upper) after :=
    hlow.bind (taken.bind (hhigh.bind .pure))
  cases negated
  case false =>
    obtain ⟨p, gap, rfl⟩ := exists_lexeme hls
    exact tail
  case true =>
    obtain ⟨p, gap, ls, rfl, hls'⟩ := exists_lexemes hls
    obtain ⟨p', gap', rfl⟩ := exists_lexeme hls'
    exact tail

theorem yields_inForm_list (negated : Bool) (hfirst : first.token = .symbol "(")
    (hlast : last.token = .symbol ")") (hq : Fails r.query depth (l :: ls))
    (h : Listed (r.expr 0) starts depth (l :: ls) es (last :: l' :: rest)) :
    Yields (inForm r e negated) depth (first :: l :: ls) (.inList e es negated) (l' :: rest) := by
  refine (yields_no_keyword (by rw [hfirst]; rfl)).bind ((yields_expectSymbol hfirst).bind ?_)
  refine .bind (hq.attempt.bind (yields_dialect.bind ((yields_commaSeparated h).bind .pure))) ?_
  exact (yields_expectSymbol hlast).bind .pure

theorem yields_inForm_query (negated : Bool) (hfirst : first.token = .symbol "(")
    (hlast : last.token = .symbol ")")
    (hq : Yields r.query depth (l :: ls) query (last :: l' :: rest)) :
    Yields (inForm r e negated) depth (first :: l :: ls) (.inQuery e query negated)
      (l' :: rest) := by
  refine (yields_no_keyword (by rw [hfirst]; rfl)).bind ((yields_expectSymbol hfirst).bind ?_)
  refine Yields.bind (hq.attempt.bind .pure) ?_
  exact (yields_expectSymbol hlast).bind .pure

end Ranges


-- Every operator that is a symbol is kept under its own name.
theorem operatorNode_symbol (ho : op ∈ infixSymbols) (l r : Node) :
    operatorNode op l r = .operator ⟨.op, op, some l, some r⟩ := by
  unfold operatorNode
  split
  case h_3 => rfl
  all_goals exact absurd ho (by decide)

end SqlLens.Sql
