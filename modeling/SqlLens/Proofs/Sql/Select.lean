import SqlLens.Proofs.Sql.Source

namespace SqlLens.Sql

open SqlLens.Sql.Parser

-- What a select without the clauses of its query stands in front of.
def selectStops : List String :=
  [")", ";", "UNION", "EXCEPT", "INTERSECT", "ORDER", "LIMIT", "OFFSET", "FOR"]

-- How a select tells rows apart, with its text.
inductive Distinction where
  | none
  | plain
  | on (xs : List (Entry Expr))

namespace Distinction

def tree : Distinction → Distinct
  | .none => .none
  | .plain => .plain
  | .on xs => .on (xs.map (·.tree))

def tokens : Distinction → List Token
  | .none => []
  | .plain => [.ofWord "DISTINCT"]
  | .on xs => .ofWord "DISTINCT" :: .ofWord "ON" :: parenTokens (commaTokens (xs.map (·.tokens)))

def text : Distinction → String
  | .none => ""
  | .plain => " DISTINCT"
  | .on xs => " DISTINCT ON (" ++ commas (xs.map (·.text)) ++ ")"

theorem text_on (xs : List (Entry Expr)) :
    (on xs).text = " DISTINCT ON (" ++ commas (xs.map (·.text)) ++ ")" := rfl

end Distinction

-- A select with its text.
structure Selection where
  distinct : Distinction := .none
  items    : List (Entry Item)
  from_    : List (Entry Source) := []
  cond     : Option (Entry Expr) := none
  groups   : List (Entry Expr) := []
  having   : Option (Entry Expr) := none

namespace Selection

def tree (s : Selection) : Select where
  distinct := s.distinct.tree
  items    := s.items.map (·.tree)
  from_    := s.from_.map (·.tree)
  cond     := s.cond.map (·.tree)
  groups   := s.groups.map (·.tree)
  having   := s.having.map (·.tree)

def fromTokens (s : Selection) : List Token := clauseTokens ["FROM"] (listTokens? s.from_)

def condTokens (s : Selection) : List Token := clauseTokens ["WHERE"] (s.cond.map (·.tokens))

def groupTokens (s : Selection) : List Token := clauseTokens ["GROUP", "BY"] (listTokens? s.groups)

def havingTokens (s : Selection) : List Token := clauseTokens ["HAVING"] (s.having.map (·.tokens))

def tokens (s : Selection) : List Token :=
  .ofWord "SELECT" :: (s.distinct.tokens ++ (commaTokens (s.items.map (·.tokens)) ++
    (s.fromTokens ++ (s.condTokens ++ (s.groupTokens ++ s.havingTokens)))))

def text (s : Selection) : String :=
  "SELECT" ++ s.distinct.text ++ " " ++ commas (s.items.map (·.text)) ++
    clauseText "FROM" (listText? s.from_) ++ clauseText "WHERE" (s.cond.map (·.text)) ++
    clauseText "GROUP BY" (listText? s.groups) ++ clauseText "HAVING" (s.having.map (·.text))

theorem text_def (s : Selection) :
    s.text = "SELECT" ++ s.distinct.text ++ " " ++ commas (s.items.map (·.text)) ++
      clauseText "FROM" (listText? s.from_) ++ clauseText "WHERE" (s.cond.map (·.text)) ++
      clauseText "GROUP BY" (listText? s.groups) ++
      clauseText "HAVING" (s.having.map (·.text)) := rfl

end Selection

variable {depth m k g h : Nat} {l l' : Lexeme} {ls rest after : List Lexeme} {r : Rules}
  {ts : List Token} {e : Expr} {s : Selection} {stops closers : List String}

-- Whether an item of a select list may begin with the token.
def Token.beginsItem : Token → Bool
  | .eof => false
  | .symbol s => !([")", ";", "]", "\x7d"].contains s)
  | .word _ k none => !(("ALL" :: "DISTINCT" :: "ON" :: Words.columnStops).contains k)
  | _ => true

-- Whether a list of columns to group by may begin with the tokens.
def beginsGroup (ts : List Token) : Bool :=
  ts.head?.any (fun t => !(["ALL", "GROUPING", "CUBE", "ROLLUP"].contains t.keyword)) &&
    !(ts.head?.any (·.isSymbol "(") && ts.tail.head?.all (·.isSymbol ")"))

theorem Token.not_keyword_of_beginsItem {t : Token} (ht : t.beginsItem) {word : String}
    (hw : word ∈ "ALL" :: "DISTINCT" :: "ON" :: Words.columnStops) (hne : word ≠ "") :
    t.isKeyword word = false := by
  refine beq_eq_false_iff_ne.mpr ?_
  unfold keyword
  split
  case h_1 text k =>
    rintro rfl
    simp only [beginsItem, List.contains_iff_mem.mpr hw] at ht
    cases ht
  case h_2 => exact hne.symm

theorem not_endsItems (hl : l.token.beginsItem) :
    Yields endsItems depth (l :: ls) false (l :: ls) := by
  obtain ⟨t, p, gap⟩ := l
  refine yields_token.bind ?_
  cases t
  case eof => cases hl
  case symbol s =>
    have open_ : [")", ";", "]", "\x7d"].contains s = false := by
      simpa [Token.beginsItem] using hl
    exact open_ ▸ .pure
  case word text k quote =>
    cases quote
    case none =>
      have free : Words.columnStops.contains k = false := by
        simp only [Token.beginsItem, List.contains_cons, Bool.not_eq_true', Bool.or_eq_false_iff]
          at hl
        exact hl.2.2.2
      exact free ▸ .pure
    case some => exact .pure
  all_goals exact .pure

section Groups

theorem Reads.group (he : Reads e ts g h k) (hg : 0 < g) (begins : beginsGroup ts)
    (sub : stops ⊆ clauseStops) : ReadsBefore groupItem stops e ts (k + 1) := by
  intro m depth ls after hls hm hk hafter
  have read := he.before hg sub m depth ls after hls hm hk hafter
  obtain ⟨l', rest, rfl, hl'⟩ := hafter
  obtain _ | ⟨l, ls⟩ := ls
  case nil =>
    rw [← hls] at begins
    cases begins
  case cons =>
  rw [← hls] at begins
  simp only [beginsGroup, List.map_cons, List.head?_cons, Option.any_some, List.contains_cons,
    List.contains_nil, Bool.or_false, Bool.and_eq_true, Bool.not_eq_true', Bool.or_eq_false_iff,
    List.tail_cons] at begins
  obtain ⟨⟨-, sets, cube, rollup⟩, empty⟩ := begins
  have no {k : String} (h : (l.token.keyword == k) = false) :
      Yields (keyword? k) depth (l :: (ls ++ l' :: rest)) false (l :: (ls ++ l' :: rest)) :=
    yields_no_keyword h
  have unpaired : Yields (symbols? ["(", ")"]) depth (l :: (ls ++ l' :: rest)) false
      (l :: (ls ++ l' :: rest)) := by
    obtain ⟨x, more, ex, hx⟩ : ∃ x more, ls ++ l' :: rest = x :: more ∧
        (l.token.isSymbol "(" && x.token.isSymbol ")") = false := by
      cases ls
      case nil => exact ⟨l', rest, rfl, by simp_all⟩
      case cons x ls => exact ⟨x, ls ++ l' :: rest, rfl, by simpa using empty⟩
    rw [ex]
    exact yields_no_symbols hx
  refine yields_dialect.bind ((no_keywords_first sets).bind ?_)
  exact (no cube).bind ((no rollup).bind (unpaired.bind read))

end Groups

structure Selection.Reads (s : Selection) (k : Nat) : Prop where
  distinct : ∀ xs, s.distinct = .on xs → xs ≠ [] ∧
    ∀ x ∈ xs, ReadsBefore (fun r => r.expr 0) [",", ")"] x.tree x.tokens k ∧
      Begins (fun t => t.isSymbol ")" = false) x.tokens
  filled : s.items ≠ []
  items : ∀ x ∈ s.items, ReadsBefore selectItem x.tree.ends x.tree x.tokens k
  begins : ∀ x ∈ s.items, Begins (fun t => t.beginsItem) x.tokens
  -- What follows a star in the list is another item or a source.
  stars : s.from_ = [] → ∀ x ∈ s.items, x.tree.ends = itemStops
  from_ : ∀ x ∈ s.from_, ReadsBefore (fun r => r.source) sourceStops x.tree x.tokens k
  cond : ∀ x ∈ s.cond, ReadsBefore (fun r => r.expr 0) ("GROUP" :: "HAVING" :: selectStops)
    x.tree x.tokens k
  groups : ∀ x ∈ s.groups, ReadsBefore groupItem ("," :: "HAVING" :: selectStops) x.tree x.tokens k
  having : ∀ x ∈ s.having, ReadsBefore (fun r => r.expr 0) selectStops x.tree x.tokens k
  sources : ∀ x ∈ s.from_, x.tokens ≠ []
  conds : ∀ x ∈ s.cond, x.tokens ≠ []
  all : ∀ x ∈ s.groups, Begins (fun t => t.isKeyword "ALL" = false) x.tokens
  havings : ∀ x ∈ s.having, x.tokens ≠ []

namespace Selection.Reads

theorem yields_distinctness (depth : Nat) (rest : List Lexeme) (hs : s.Reads k)
    (hls : ls.map (·.token) = s.distinct.tokens) (hm : 4 * ls.length + 5 ≤ m) (hk : k ≤ depth)
    (hl : l.token.beginsItem) :
    Yields (distinctness (rules m)) depth (ls ++ l :: rest) s.distinct.tree (l :: rest) := by
  have no {word : String} (hw : word ∈ "ALL" :: "DISTINCT" :: "ON" :: Words.columnStops)
      (hne : word ≠ "") : Yields (keyword? word) depth (l :: rest) false (l :: rest) :=
    yields_no_keyword (Token.not_keyword_of_beginsItem hl hw hne)
  have place (ls : List Lexeme) : Yields position? depth ls
      (let l := ls.headD eofLexeme; if l.token.isEof then none else some l.start) ls := rfl
  refine (place _).bind ?_
  cases e : s.distinct
  case none =>
    rw [e] at hls
    obtain rfl := List.map_eq_nil_iff.mp hls
    exact (no (by decide) (by decide)).bind ((no (by decide) (by decide)).bind .pure)
  case plain =>
    rw [e] at hls
    obtain ⟨p, gap, rfl⟩ := exists_lexeme hls
    refine (yields_no_keyword rfl).bind ((yields_keyword rfl (by decide)).bind ?_)
    exact (no (by decide) (by decide)).bind .pure
  case on xs =>
    rw [e] at hls
    have ⟨filled, each⟩ := hs.distinct xs e
    obtain ⟨p, gap, ls, rfl, hls'⟩ := exists_lexemes hls
    obtain ⟨p', gap', ls, rfl, hls''⟩ := exists_lexemes hls'
    obtain ⟨first, inside, last, rfl, hfirst, hinside, hlast⟩ := exists_parens hls''
    have read := yields_entries [")"] filled (fun x hx => (each x hx).1)
      (fun x hx => (each x hx).2) (by decide) (by decide) (by decide) m depth inside
      (last :: l :: rest) hinside (by simp at hm; omega) hk (stops_closing hlast _)
    obtain ⟨y, inside, rfl, unclosed⟩ :=
      (Begins.commas (by simpa using filled) (by simpa using fun x hx => (each x hx).2)).exists_cons
        hinside
    have listed : Yields (commaSeparated0 ((rules m).expr 0) ")") depth
        (y :: (inside ++ last :: l :: rest)) (xs.map (·.tree)) (last :: l :: rest) := by
      have peek : Yields (peekSymbol ")") depth (y :: (inside ++ last :: l :: rest)) false
          (y :: (inside ++ last :: l :: rest)) := unclosed ▸ yields_peekSymbol ")"
      exact peek.bind read
    have enclosed := yields_parenthesized hfirst hlast listed
    simp only [List.cons_append, List.append_assoc, List.nil_append]
    refine (yields_no_keyword rfl).bind ((yields_keyword rfl (by decide)).bind ?_)
    exact (yields_keyword rfl (by decide)).bind (enclosed.bind .pure)

-- The items of the list, in front of the sources or of what follows them.
theorem yields_selectItems (depth : Nat) (after : List Lexeme) (hs : s.Reads k)
    (hls : ls.map (·.token) = commaTokens (s.items.map (·.tokens))) (hm : 4 * ls.length + 9 ≤ m)
    (hk : k ≤ depth)
    (hafter : Stops (if s.from_ = [] then
      "WHERE" :: "GROUP" :: "HAVING" :: selectStops.dropLast else ["FROM"]) after) :
    Yields (selectItems (rules m)) depth (ls ++ after) (s.items.map (·.tree)) after := by
  have next (comma l : Lexeme) (ls : List Lexeme) (hc : comma.token = .symbol ",")
      (hl : l.token.beginsItem) : Yields (do
        if ← symbol? "," then return !(Dialect.generic.allowsTrailingComma && (← endsItems))
        else return false) depth (comma :: l :: ls) true (l :: ls) :=
    (yields_comma hc).bind ((not_endsItems hl).bind .pure)
  have stop (l : Lexeme) (ls : List Lexeme) (hl : l.token.isSymbol "," = false) : Yields (do
        if ← symbol? "," then return !(Dialect.generic.allowsTrailingComma && (← endsItems))
        else return false) depth (l :: ls) false (l :: ls) := (yields_no_symbol hl).bind .pure
  have items : Listed (selectItem (rules m)) (fun l => l.token.beginsItem) depth (ls ++ after)
      (s.items.map (·.tree)) after := by
    by_cases sourced : s.from_ = []
    case pos =>
      rw [if_pos sourced] at hafter
      have each : ∀ x ∈ s.items, ReadsBefore selectItem itemStops x.tree x.tokens k :=
        fun x hx => hs.stars sourced x hx ▸ hs.items x hx
      exact listed _ _ hs.filled each hs.begins (by decide) (by decide) (by decide) hls hm hk hafter
    case neg =>
      rw [if_neg sourced] at hafter
      have each : ∀ x ∈ s.items, ReadsBefore selectItem [",", "FROM"] x.tree x.tokens k := by
        intro x hx
        refine (hs.items x hx).weaken ?_ le_rfl
        cases x.tree <;> simp [Item.ends, itemStops]
      exact listed _ _ hs.filled each hs.begins (by decide) (by decide) (by decide) hls hm hk hafter
  exact yields_dialect.bind (yields_separated items next stop)

theorem yields_groupBy (depth : Nat) (hs : s.Reads k) (hls : ls.map (·.token) = s.groupTokens)
    (hm : 4 * ls.length + 5 ≤ m) (hk : k ≤ depth) (hafter : Stops ("HAVING" :: selectStops) after) :
    Yields (groupBy (rules m)) depth (ls ++ after) { exprs := s.groups.map (·.tree) } after := by
  unfold groupTokens at hls
  have groups := hs.groups
  have all := hs.all
  cases e : s.groups
  case nil =>
    rw [e] at hls
    obtain rfl := List.map_eq_nil_iff.mp hls
    exact (hafter.no_keywords (by decide)).bind .pure
  case cons x xs =>
    rw [e] at hls groups all
    obtain ⟨p, gap, ls, rfl, hls'⟩ := exists_lexemes hls
    obtain ⟨p', gap', ls, rfl, hitems⟩ := exists_lexemes hls'
    have read := yields_entries ("HAVING" :: selectStops) (p := groupItem) (by simp)
      groups all (by decide) (by decide) (by decide) m depth ls after hitems
      (by simp at hm; omega) hk hafter
    obtain ⟨l, ls, rfl, unall⟩ := (Begins.commas (by simp) (by simpa using all)).exists_cons hitems
    have words : Yields (keywords? ["GROUP", "BY"]) depth
        (⟨.ofWord "GROUP", p, gap⟩ :: ⟨.ofWord "BY", p', gap'⟩ :: (l :: ls ++ after)) true
        (l :: ls ++ after) := rfl
    have modifiers : Yields (many do
        if ← keyword? "WITH" then
          return some (Phrase.words (" WITH " ++ (← expectOneOf ["ROLLUP", "CUBE", "TOTALS"])))
        else return none) depth after [] after :=
      yields_many_nil ((hafter.no_keyword (by decide)).bind .pure)
    refine words.bind ((yields_no_keyword unall).bind (.bind read ?_))
    refine Yields.bind (a := []) (yields_dialect.bind modifiers) ?_
    exact Yields.bind (a := [])
      ((hafter.no_keywords (k := "GROUPING") (by decide)).bind .pure) .pure

theorem yields_sources (depth : Nat) (hs : s.Reads k) (hls : ls.map (·.token) = s.fromTokens)
    (hm : 4 * ls.length + 5 ≤ m) (hk : k ≤ depth)
    (hafter : Stops ("WHERE" :: "GROUP" :: "HAVING" :: selectStops) after) :
    Yields (do if ← keyword? "FROM" then Parser.sources (rules m) else return []) depth (ls ++ after)
      (s.from_.map (·.tree)) after := by
  unfold fromTokens at hls
  have filled := hs.sources
  have each := hs.from_
  cases e : s.from_
  case nil =>
    rw [e] at hls
    obtain rfl := List.map_eq_nil_iff.mp hls
    exact (hafter.no_keyword (by decide)).bind .pure
  case cons x xs =>
    rw [e] at hls filled each
    obtain ⟨p, gap, ls, rfl, hsources⟩ := exists_lexemes hls
    have begins (y : Entry Source) (hy : y ∈ x :: xs) := exists_begins (filled y hy)
    have read := yields_entries _ (p := fun r => r.source) (by simp) each begins (by decide)
      (by decide) (by decide) m depth ls after hsources (by simp at hm; omega) hk hafter
    obtain ⟨l, ls, rfl, -⟩ := (Begins.commas (by simp) (by simpa using begins)).exists_cons hsources
    exact (yields_keyword rfl (by decide)).bind read

theorem itemsStops (sub : stops ⊆ selectStops) (lock : "FOR" ∈ stops → s.from_ ≠ [])
    (hls : ls.map (·.token) = s.fromTokens)
    (hafter : Stops ("WHERE" :: "GROUP" :: "HAVING" :: stops) after) :
    Stops (if s.from_ = [] then "WHERE" :: "GROUP" :: "HAVING" :: selectStops.dropLast
      else ["FROM"]) (ls ++ after) := by
  unfold fromTokens at hls
  cases e : s.from_
  case nil =>
    rw [e] at hls lock
    obtain rfl := List.map_eq_nil_iff.mp hls
    have unlocked : stops ⊆ selectStops.dropLast := by
      intro k hk
      have hk' := sub hk
      have : k ≠ "FOR" := by
        rintro rfl
        exact lock hk rfl
      simp only [selectStops, List.mem_cons] at hk'
      simp only [selectStops, List.dropLast, List.mem_cons]
      tauto
    refine hafter.mono ?_
    exact List.cons_subset_cons _ (List.cons_subset_cons _ (List.cons_subset_cons _ unlocked))
  case cons =>
    rw [e] at hls
    obtain ⟨p, gap, ls, rfl, -⟩ := exists_lexemes hls
    exact ⟨_, _, rfl, rfl⟩

-- Nothing but the sources and conditions that the tree has stands between them.
theorem select (hs : s.Reads k) (sub : stops ⊆ selectStops) (lock : "FOR" ∈ stops → s.from_ ≠ []) :
    ReadsWithin 5 Parser.select stops s.tree s.tokens k := by
  intro m depth ls after hls hm hk hafter
  obtain ⟨p, gap, ls, rfl, hls'⟩ := exists_lexemes hls
  obtain ⟨front, ls, rfl, hfront, hls'⟩ := List.map_eq_append_iff.mp hls'
  obtain ⟨items, ls, rfl, hitems, hls'⟩ := List.map_eq_append_iff.mp hls'
  obtain ⟨sources, ls, rfl, hsources, hls'⟩ := List.map_eq_append_iff.mp hls'
  obtain ⟨cond, ls, rfl, hcond, hls'⟩ := List.map_eq_append_iff.mp hls'
  obtain ⟨groups, having, rfl, hgroups, hhaving⟩ := List.map_eq_append_iff.mp hls'
  have havingStops : Stops ("HAVING" :: stops) (having ++ after) := hafter.clause hhaving rfl rfl
  have groupStops : Stops ("GROUP" :: "HAVING" :: stops) (groups ++ (having ++ after)) :=
    havingStops.clause hgroups rfl rfl
  have condStops : Stops ("WHERE" :: "GROUP" :: "HAVING" :: stops)
      (cond ++ (groups ++ (having ++ after))) := groupStops.clause hcond rfl rfl
  have sub₁ := List.cons_subset_cons "HAVING" sub
  have sub₂ := List.cons_subset_cons "GROUP" sub₁
  have condStops' := condStops.mono (List.cons_subset_cons "WHERE" sub₂)
  have readHaving := yields_after "HAVING" (m := m) (k := k) hs.having hs.havings rfl hhaving
    (by simp at hm; omega) hk (hafter.mono sub) (by decide)
  have readGroups := hs.yields_groupBy depth (m := m) hgroups (by simp at hm; omega) hk
    (havingStops.mono sub₁)
  have readCond := yields_after "WHERE" (m := m) hs.cond hs.conds rfl hcond
    (by simp at hm; omega) hk (groupStops.mono sub₂) (by decide)
  have readSources := hs.yields_sources depth (m := m) hsources (by simp at hm; omega) hk
    condStops'
  have readItems := hs.yields_selectItems depth
    (sources ++ (cond ++ (groups ++ (having ++ after)))) (m := m) hitems (by simp at hm; omega) hk
    (itemsStops sub lock hsources condStops)
  obtain ⟨l, items, rfl, hl⟩ :=
    (Begins.commas (by simpa using hs.filled) (by simpa using hs.begins)).exists_cons hitems
  have readDistinct := hs.yields_distinctness depth
    (items ++ (sources ++ (cond ++ (groups ++ (having ++ after))))) (l := l) (m := m) hfront
    (by simp at hm; omega) hk hl
  have clause (k : String) (hk : k ∉ "" :: "HAVING" :: selectStops) (items : Parser (List Piece)) :
      Yields (byClause k items) depth (having ++ after) [] (having ++ after) :=
    ((havingStops.mono sub₁).no_keywords hk).bind .pure
  have stops := hafter.mono sub
  have windows : Yields (windowClauses (rules m)) depth after [] after := by
    refine (stops.no_peekKeyword (by decide)).bind (.bind (a := []) ?_ .pure)
    exact (stops.no_after (by decide)).bind .pure
  have connect : Yields (connectBy (rules m)) depth after [] after := by
    exact yields_dialect.bind ((stops.no_peekAny (by decide)).bind .pure)
  have behind : Yields (do
      let group ← groupBy (rules m)
      let cluster ← byClause "CLUSTER" do
        return Phrase.exprs (← commaSeparated ((rules m).expr 0))
      let distribute ← byClause "DISTRIBUTE" do
        return Phrase.exprs (← commaSeparated ((rules m).expr 0))
      let sort ← byClause "SORT" do return Phrase.orderItems (← orderItems (rules m))
      let having ← after? "HAVING" ((rules m).expr 0)
      let windows ← windowClauses (rules m)
      let connect ← connectBy (rules m)
      return ({
        distinct := s.distinct.tree
        items := s.items.map (·.tree)
        from_ := s.from_.map (·.tree)
        cond := s.cond.map (·.tree)
        groupAll := group.all
        groups := group.exprs
        modifiers := group.modifiers
        afterGroup := cluster ++ distribute ++ sort
        having := having
        tail := windows ++ connect } : Select)) depth (groups ++ (having ++ after)) s.tree after := by
    refine readGroups.bind ((clause _ (by decide) _).bind ((clause _ (by decide) _).bind ?_))
    exact (clause _ (by decide) _).bind
      (readHaving.bind (windows.bind (connect.bind .pure)))
  have item (k : String) (hk : k ∈ "ALL" :: "DISTINCT" :: "ON" :: Words.columnStops)
      (hne : k ≠ "") : l.token.isKeyword k = false := Token.not_keyword_of_beginsItem hl hk hne
  have unsourced : Yields (peekKeyword "FROM") depth
      (l :: (items ++ (sources ++ (cond ++ (groups ++ (having ++ after)))))) false
      (l :: (items ++ (sources ++ (cond ++ (groups ++ (having ++ after)))))) :=
    item "FROM" (by decide) (by decide) ▸ yields_peekKeyword "FROM"
  have unviewed : Yields (lateralView (rules m)) depth (cond ++ (groups ++ (having ++ after))) none
      (cond ++ (groups ++ (having ++ after))) :=
    (condStops'.no_keywords (by decide)).bind .pure
  have into : Yields selectInto depth (sources ++ (cond ++ (groups ++ (having ++ after)))) []
      (sources ++ (cond ++ (groups ++ (having ++ after)))) :=
    ((itemsStops sub lock hsources condStops).no_keyword (by split <;> decide)).bind .pure
  have opened : Yields (expectKeyword "SELECT") depth (⟨.ofWord "SELECT", p, gap⟩ ::
      (front ++ l :: (items ++ (sources ++ (cond ++ (groups ++ (having ++ after)))))) ) ()
      (front ++ l :: (items ++ (sources ++ (cond ++ (groups ++ (having ++ after)))))) := by
    cases front
    all_goals exact (yields_keyword rfl (by decide)).bind .pure
  simp only [List.cons_append, List.append_assoc] at readItems ⊢
  have early : Yields (do
      if Dialect.generic.allowsFromFirst && (← peekKeyword "FROM") then
        skip
        return some (← Parser.sources (rules m))
      else return none) depth (⟨.ofWord "SELECT", p, gap⟩ ::
        (front ++ l :: (items ++ (sources ++ (cond ++ (groups ++ (having ++ after))))))) none
      (⟨.ofWord "SELECT", p, gap⟩ ::
        (front ++ l :: (items ++ (sources ++ (cond ++ (groups ++ (having ++ after))))))) :=
    (yields_peekKeyword "FROM").bind .pure
  refine yields_dialect.bind (early.bind ((yields_peekKeyword "SELECT").bind ?_))
  refine opened.bind (readDistinct.bind ?_)
  refine Yields.bind (p := Parser.top (rules m)) (a := []) ?_ (.bind (unsourced.bind readItems) ?_)
  · exact (yields_no_keyword (item "TOP" (by decide) (by decide))).bind .pure
  refine into.bind (readSources.bind ((yields_many_nil unviewed).bind ?_))
  exact Yields.bind (a := none) (condStops'.no_after (by decide)) (readCond.bind behind)

end Selection.Reads

end SqlLens.Sql
