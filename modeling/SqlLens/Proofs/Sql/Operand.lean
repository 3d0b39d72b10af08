import SqlLens.Proofs.Sql.TypeName

namespace SqlLens.Sql

open SqlLens.Sql.Parser

variable {depth m k g h strength : Nat} {l l' : Lexeme} {ls rest after : List Lexeme} {r : Rules}
  {t : Token} {ts ts' : List Token} {e root : Expr}

section Roots

variable {text kw : String} {quote : Option Char} {es : List Expr} {query : Query}
  {first last : Lexeme} {starts : Lexeme → Prop}

theorem yields_prefixExpr_word (hl : l.token = .word text kw quote)
    (ht : Fails (typedLiteral r) depth (l :: l' :: ls))
    (h : Yields (wordExpr r ⟨text, quote⟩ (if quote.isNone then kw else "")) depth (l' :: ls) e
      rest) :
    Yields (prefixExpr r) depth (l :: l' :: ls) e rest := by
  obtain ⟨t, p, g⟩ := l
  cases hl
  have taken : Yields skip depth (⟨.word text kw quote, p, g⟩ :: l' :: ls) () (l' :: ls) :=
    yields_skip rfl
  exact yields_dialect.bind (ht.attempt.bind (yields_lexeme.bind (taken.bind h)))

theorem signBinding_eq {op : String} (ho : op ∈ signSymbols) :
    signBinding? .generic (.symbol op) = some .times := by
  revert op
  decide

theorem yields_prefixExpr_sign {op : String} (ho : op ∈ signSymbols) (hl : l.token = .symbol op)
    (h : Yields (r.expr 40) depth (l' :: ls) e rest) :
    Yields (prefixExpr r) depth (l :: l' :: ls) (.unary op e) rest := by
  obtain ⟨t, p, g⟩ := l
  cases hl
  have untyped : Fails (typedLiteral r) depth (⟨.symbol op, p, g⟩ :: l' :: ls) :=
    fails_typedLiteral_of_not_word rfl
  have strength : Yields (strengthOf .times) depth (l' :: ls) 40 (l' :: ls) := rfl
  refine yields_dialect.bind (untyped.attempt.bind (yields_lexeme.bind ?_))
  rw [signBinding_eq ho]
  exact (yields_skip rfl).bind (strength.bind (h.bind .pure))

theorem yields_prefixExpr_paren (hl : l.token = .symbol "(")
    (h : Yields (parenExpr r) depth (l' :: ls) e rest) :
    Yields (prefixExpr r) depth (l :: l' :: ls) e rest := by
  obtain ⟨t, p, g⟩ := l
  cases hl
  have untyped : Fails (typedLiteral r) depth (⟨.symbol "(", p, g⟩ :: l' :: ls) :=
    fails_typedLiteral_of_not_word rfl
  have taken : Yields skip depth (⟨.symbol "(", p, g⟩ :: l' :: ls) () (l' :: ls) :=
    yields_skip rfl
  exact yields_dialect.bind (untyped.attempt.bind (yields_lexeme.bind (taken.bind h)))

-- A query begins so if it is written inside an expression.
def Token.beginsQuery (t : Token) : Bool := t.isKeyword "SELECT" || t.isKeyword "WITH"

theorem yields_parenExpr_query (hl : l.token.beginsQuery)
    (hlast : last.token = .symbol ")")
    (h : Yields r.query depth (l :: ls) query (last :: l' :: rest)) :
    Yields (parenExpr r) depth (l :: ls) (.subquery query) (l' :: rest) := by
  have starts : ["SELECT", "WITH"].contains l.token.keyword = true := by
    simp only [Token.beginsQuery, Token.isKeyword, Bool.or_eq_true, beq_iff_eq] at hl
    simp only [List.contains_eq_mem, decide_eq_true_eq, List.mem_cons]
    tauto
  have peek : Yields peekQuery depth (l :: ls) true (l :: ls) := starts ▸ rfl
  refine peek.bind ?_
  exact h.bind ((yields_expectSymbol hlast).bind .pure)

-- What a list in parentheses stands for.
def grouped : List Expr → Expr
  | [e] => .nested e
  | es => .tuple es

theorem yields_parenExpr_list (hl : l.token.opens) (hlast : last.token = .symbol ")")
    (h : Listed (r.expr 0) starts depth (l :: ls) es (last :: l' :: rest)) :
    Yields (parenExpr r) depth (l :: ls) (grouped es) (l' :: rest) := by
  have starts : ["SELECT", "WITH"].contains l.token.keyword = false := by
    simp [Token.opens] at hl ⊢
    tauto
  have peek : Yields peekQuery depth (l :: ls) false (l :: ls) := starts ▸ rfl
  refine peek.bind (yields_dialect.bind ?_)
  refine (yields_commaSeparated h).bind ((yields_expectSymbol hlast).bind ?_)
  obtain _ | ⟨e, _ | ⟨e', es⟩⟩ := es
  all_goals exact .pure

theorem yields_wordExpr_form {id : Ident}
    (h : Yields (keywordForm? r id kw) depth ls (some e) rest) :
    Yields (wordExpr r id kw) depth ls e rest := h.attempt'.bind .pure

end Roots

section Shapes

variable {tss : List (List Token)}

namespace Smooth

theorem nil : Smooth [] := ⟨by simp, by simp⟩

theorem cons (point : t ≠ .symbol ".") (bracket : t ≠ .symbol "[") (h : Smooth ts) :
    Smooth (t :: ts) := by
  refine ⟨?_, by simpa using point⟩
  simp [bracket.symm, h.unbracketed]

theorem append (h : Smooth ts) (h' : Smooth ts') : Smooth (ts ++ ts') := by
  refine ⟨by simp [h.unbracketed, h'.unbracketed], ?_⟩
  cases ts
  case nil => exact h'.unpointed
  case cons => exact h.unpointed

theorem concat (h : Smooth ts) (point : t ≠ .symbol ".") (bracket : t ≠ .symbol "[")
    (h' : Smooth ts') : Smooth (ts ++ t :: ts') := h.append (.cons point bracket h')

theorem parens (h : Smooth ts) : Smooth (parenTokens ts) :=
  .cons nofun nofun (h.concat nofun nofun .nil)

theorem separated (point : t ≠ .symbol ".") (bracket : t ≠ .symbol "[")
    (each : ∀ ts ∈ tss, Smooth ts) : Smooth ([t].intercalate tss) := by
  induction tss
  case nil => exact .nil
  case cons ts tss hi =>
    have ⟨first, others⟩ := List.forall_mem_cons.mp each
    by_cases last : tss = []
    case pos =>
      subst last
      simpa [List.intercalate] using first
    case neg =>
      rw [List.intercalate_cons_of_ne_nil last, List.append_assoc]
      exact first.concat point bracket (hi others)

theorem commas (each : ∀ ts ∈ tss, Smooth ts) : Smooth (commaTokens tss) :=
  separated nofun nofun each

theorem negation (negated : Bool) : Smooth (notTokens negated) := by
  cases negated
  case false => exact .nil
  case true => exact .cons nofun nofun .nil

end Smooth

theorem Unstarred.append (h : Unstarred ts) (h' : Smooth ts') : Unstarred (ts ++ ts') := by
  induction h
  case last ts hts =>
    refine .last ?_
    cases ts
    case nil => exact h'.unpointed
    case cons => exact hts
  case more hi => exact .more hi

namespace Rounded

theorem ne_nil (hts : Rounded ts) : ts ≠ [] := by
  have ⟨_, _, e, _⟩ := hts.opens
  simp [e]

theorem smooth (hts : Rounded ts) : Smooth ts := by
  refine ⟨hts.unbracketed, ?_⟩
  obtain ⟨t, ts', rfl, opens, -⟩ := hts.opens
  rintro ⟨⟩
  cases opens

theorem cons (hts : Smooth ts) (opens : t.opens) (ht : t ≠ .symbol "(") : Rounded (t :: ts) := by
  have bracket : t ≠ .symbol "[" := by
    rintro rfl
    cases opens
  refine ⟨⟨t, ts, rfl, opens, fun e => absurd e ht⟩, ?_, .last hts.unpointed⟩
  simp [bracket.symm, hts.unbracketed]

theorem parens (hts : Smooth ts) : Rounded (parenTokens ts) := by
  have inside : Smooth (ts ++ [.symbol ")"]) := hts.concat nofun nofun .nil
  exact ⟨⟨_, _, rfl, rfl, by simp⟩, hts.parens.unbracketed, .last inside.unpointed⟩

theorem append (hts : Rounded ts) (hts' : Smooth ts') : Rounded (ts ++ ts') := by
  have unstarred := hts.unstarred.append hts'
  have unbracketed := (hts.smooth.append hts').unbracketed
  obtain ⟨t, ts, rfl, opens, closed⟩ := hts.opens
  exact ⟨⟨t, _, rfl, opens, fun e => List.mem_append_left _ (closed e)⟩, unbracketed, unstarred⟩

theorem exists_cons (hts : Rounded ts) (hls : ls.map (·.token) = ts) :
    ∃ l rest, ls = l :: rest ∧ l.token.opens := by
  obtain ⟨t, ts', rfl, opens, _⟩ := hts.opens
  obtain ⟨l, rest, rfl, rfl, _⟩ := List.map_eq_cons_iff.mp hls
  exact ⟨l, rest, rfl, opens⟩

end Rounded

end Shapes

section Expressions

theorem yields_chain (hl : l.token.follows) :
    Yields (chain r root) depth (l :: ls) root (l :: ls) := by
  have stops : Stops followStops (l :: ls) := ⟨l, ls, rfl, hl⟩
  refine yields_dialect.bind (Yields.bind (a := ([], false)) ?_ .pure)
  refine yields_repeated_none ((stops.no_peekSymbol (by decide)).bind ?_)
  exact (stops.no_symbol (by decide)).bind .pure

-- The loop over operators ends in front of one that binds too loosely.
theorem yields_extended_none (h : Follows strength ls) :
    Yields (extended r strength e) depth ls none ls := by
  obtain ⟨l, rest, rfl, _, h⟩ := h
  have ⟨s, hs, next⟩ := h depth
  refine next.bind ((yields_peekSymbol ".").bind ?_)
  simp only [decide_eq_true hs, Bool.true_or]
  exact .pure

theorem yields_expression {e' : Expr} {mid : List Lexeme} (head : Heads r depth ls e' mid)
    (hmid : ∃ l rest, mid = l :: rest ∧ l.token.follows)
    (loop : Relation.ReflTransGen (Advances (extended r strength) depth) (e', mid) (e, after))
    (stop : Follows strength after) : Yields (expression r strength) (depth + 1) ls e after := by
  have ⟨root, mid', hroot, hchain⟩ := head
  obtain ⟨l, rest, rfl, hl⟩ := hmid
  have stops : Stops followStops (l :: rest) := ⟨l, rest, rfl, hl⟩
  have operators := yields_repeated loop (yields_extended_none stop)
  refine Yields.deeper (hroot.bind (hchain.bind (.bind ?_ operators)))
  exact yields_get.bind ((stops.no_peekKeyword (by decide)).bind .pure)

theorem Reads.expr (depth : Nat) (he : Reads e ts g h k) (hls : ls.map (·.token) = ts)
    (hm : 4 * ls.length + 9 ≤ m) (hk : k + 1 ≤ depth) (hg : strength < g) (hh : Follows h after)
    (hs : Follows strength after) : Yields ((rules m).expr strength) depth (ls ++ after) e after := by
  obtain ⟨m, rfl⟩ : ∃ m', m = m' + 1 := ⟨m - 1, by omega⟩
  obtain ⟨depth, rfl⟩ : ∃ depth', depth = depth' + 1 := ⟨depth - 1, by omega⟩
  have ⟨e', mid, head, hmid, loop⟩ :=
    he m depth strength ls after hls (by simp only [Unfolded]; omega) (by omega) hg hh
  exact yields_expression head hmid loop hs

-- An expression with nothing to its left in front of the end of its clause.
theorem Reads.clause {stops : List String} (he : Reads e ts g h k) (hg : 0 < g)
    (hls : ls.map (·.token) = ts) (hm : 4 * ls.length + 9 ≤ m) (hk : k + 1 ≤ depth)
    (hs : Stops stops after) (sub : stops ⊆ clauseStops) :
    Yields ((rules m).expr 0) depth (ls ++ after) e after :=
  he.expr _ hls hm hk hg (hs.follows sub) (hs.follows sub)

theorem Reads.weaken {g' h' k' : Nat} (he : Reads e ts g h k) (hg : g' ≤ g) (hh : h' ≤ h)
    (hk : k ≤ k') : Reads e ts g' h' k' := by
  intro m depth strength ls after hls hm hk' hg' hafter
  exact he m depth strength ls after hls hm (by omega) (by omega) (hafter.mono hh)

-- An operand that is no name reads back wherever it is written.
theorem Reads.of_root (hroot : ∀ m depth ls after, ls.map (·.token) = ts → Unfolded m ls →
    k ≤ depth → Follows h after → Yields (prefixExpr (rules m)) depth (ls ++ after) e after) :
    Reads e ts g h k := by
  intro m depth strength ls after hls hm hk _ hh
  have root := hroot m depth ls after hls hm hk hh
  obtain ⟨l, rest, rfl, hl⟩ := hh.exists_cons
  exact ⟨e, _, ⟨e, _, root, yields_chain hl⟩, ⟨l, rest, rfl, hl⟩, .refl⟩

end Expressions

section Forms

theorem settled (hts : Rounded ts) (hls : ls.map (·.token) = ts) (hafter : Follows k after) :
    Settled (ls ++ after) := by
  obtain ⟨l, rest, rfl, hl⟩ := hafter.exists_cons
  have ⟨t, ts', e, opens, closed⟩ := hts.opens
  subst hls
  obtain ⟨first, inside, rfl, rfl, rfl⟩ := List.map_eq_cons_iff.mp e
  refine ⟨⟨first :: inside, l, rest, rfl, fun x hx => ?_, ?_⟩, ?_⟩
  · cases List.mem_append.mp hx
    case inl hx =>
      intro e
      exact hts.unbracketed (e ▸ List.mem_map_of_mem hx)
    case inr hx =>
      obtain rfl : x = l := by simpa using hx
      exact Token.ne_of_isSymbol (Token.isSymbol_of_isAmong hl (by decide))
  · rintro _ _ ⟨⟩ hx
    have ⟨y, hy, e⟩ := List.mem_map.mp (closed hx)
    exact ⟨inside, rfl, y, hy, e⟩
  · rintro _ _ ⟨⟩ hx
    rw [hx] at opens
    cases opens

theorem exists_lexeme (hls : ls.map (·.token) = [t]) : ∃ p gap, ls = [⟨t, p, gap⟩] := by
  obtain ⟨⟨t, p, gap⟩, rfl, rfl⟩ := List.map_eq_singleton_iff.mp hls
  exact ⟨p, gap, rfl⟩

theorem exists_lexemes (hls : ls.map (·.token) = t :: ts) :
    ∃ p gap ls', ls = ⟨t, p, gap⟩ :: ls' ∧ ls'.map (·.token) = ts := by
  obtain ⟨⟨t, p, gap⟩, ls', rfl, rfl, hls'⟩ := List.map_eq_cons_iff.mp hls
  exact ⟨p, gap, ls', rfl, hls'⟩

theorem exists_parens (hls : ls.map (·.token) = parenTokens ts) :
    ∃ first inside last, ls = first :: (inside ++ [last]) ∧ first.token = .symbol "(" ∧
      inside.map (·.token) = ts ∧ last.token = .symbol ")" := by
  rw [parenTokens, List.cons_append] at hls
  obtain ⟨first, more, rfl, hfirst, hmore⟩ := List.map_eq_cons_iff.mp hls
  obtain ⟨inside, behind, rfl, hinside, hbehind⟩ := List.map_eq_append_iff.mp hmore
  obtain ⟨last, rfl, hlast⟩ := List.map_eq_singleton_iff.mp hbehind
  exact ⟨first, inside, last, rfl, hfirst, hinside, hlast⟩

theorem stops_closing (hl : l.token = .symbol ")") (ls : List Lexeme) : Stops [")"] (l :: ls) :=
  ⟨l, ls, rfl, by rw [hl]; rfl⟩

theorem stops_comma (hl : l.token = .symbol ",") (ls : List Lexeme) : Stops [","] (l :: ls) :=
  ⟨l, ls, rfl, by rw [hl]; rfl⟩

theorem Reads.nested (he : Reads e ts g h k) (hts : Rounded ts) (hg : 0 < g) :
    Reads (.nested e) (parenTokens ts) 100 100 (k + 1) := by
  refine .of_root fun m depth ls after hls hm hk hafter => ?_
  obtain ⟨first, inside, last, rfl, hfirst, hinside, hlast⟩ := exists_parens hls
  obtain ⟨l, rest, rfl, -⟩ := hafter.exists_cons
  have read := he.clause hg hinside (m := m) (by simp [Unfolded] at hm; omega) hk
    (stops_closing hlast (l :: rest)) (by decide)
  obtain ⟨l', inside, rfl, opens⟩ := hts.exists_cons hinside
  have comma : last.token.isSymbol "," = false := hlast ▸ rfl
  have listed : Listed _ (fun _ => True) _ _ _ _ := .last read (by grind) comma
  simpa [grouped] using yields_prefixExpr_paren hfirst (yields_parenExpr_list opens hlast listed)

theorem Reads.sign {op : String} (ho : op ∈ signSymbols) (he : Reads e ts g h k)
    (hts : Rounded ts) (hg : 40 < g) :
    Reads (.unary op e) (.symbol op :: ts) 100 (min 40 h) (k + 1) := by
  refine .of_root fun m depth ls after hls hm hk hafter => ?_
  obtain ⟨l, ls, rfl, hl, hls⟩ := List.map_eq_cons_iff.mp hls
  have read := he.expr _ hls (m := m) (by simp [Unfolded] at hm; omega) hk hg (hafter.mono (by simp))
    (hafter.mono (by simp))
  obtain ⟨l', ls, rfl, opens⟩ := hts.exists_cons hls
  exact yields_prefixExpr_sign ho hl read

theorem Reads.negation (he : Reads e ts g h k) (hts : Rounded ts) (hg : 15 < g)
    (hex : startsExists ts = false) :
    Reads (.unary "NOT" e) (.ofWord "NOT" :: ts) 100 (min 15 h) (k + 1) := by
  refine .of_root fun m depth ls after hls hm hk hafter => ?_
  obtain ⟨l, ls, rfl, hl, hls⟩ := List.map_eq_cons_iff.mp hls
  have read := he.expr _ hls (m := m) (by simp [Unfolded] at hm; omega) hk hg (hafter.mono (by simp))
    (hafter.mono (by simp))
  have settled := settled hts hls hafter
  obtain ⟨l', ls, rfl, opens⟩ := hts.exists_cons hls
  have untyped : Fails (typedLiteral (rules m)) depth (l :: (l' :: ls ++ after)) :=
    fails_typedLiteral hl (by rw [hl]; rfl) settled
  have peek : Yields (keyword? "EXISTS") depth (l' :: ls ++ after) false (l' :: ls ++ after) := by
    apply yields_no_keyword
    rw [← hls] at hex
    exact hex
  have strength : Yields (strengthOf .not) depth (l' :: ls ++ after) 15 (l' :: ls ++ after) := rfl
  have operand : Yields (notForm (rules m)) depth (l' :: ls ++ after) (.unary "NOT" e) after :=
    peek.bind (strength.bind (read.bind .pure))
  have form : Yields (keywordForm? (rules m) ⟨"NOT", none⟩ "NOT") depth (l' :: ls ++ after)
      (some (.unary "NOT" e)) after := yields_dialect.bind (operand.bind .pure)
  exact yields_prefixExpr_word hl untyped (yields_wordExpr_form form)

end Forms

end SqlLens.Sql
