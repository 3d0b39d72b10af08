import SqlLens.Proofs.Sql.Call

namespace SqlLens.Sql

open SqlLens.Sql.Parser

-- What a list of sources stands in front of.
def sourceStops : List String :=
  [",", ")", ";", "WHERE", "GROUP", "HAVING", "ORDER", "LIMIT", "OFFSET", "UNION", "EXCEPT",
    "INTERSECT", "FOR"]

-- What a source stands in front of if further joins may follow.
def joinStops : List String :=
  ["JOIN", "INNER", "LEFT", "RIGHT", "FULL", "CROSS", "OUTER", "NATURAL", "SEMI", "ANTI"] ++
    sourceStops

-- What a source without its joins stands in front of.
def factorStops : List String := ["ON", "USING"] ++ joinStops

-- Words behind which a source is no table by its name.
def factorWords : List String :=
  ["AS", "LATERAL", "TABLE", "VALUES", "UNNEST", "JSON_TABLE", "OPENJSON", "XMLTABLE"]

-- Whether the word is another name of a table without `AS` in front of it.
def Word.isTableAlias (w : Word) : Bool :=
  match w.token with
  | .word _ k _ => !("AS" :: Words.tableStops).contains k
  | _ => false

-- Another name of a source, with or without `AS` in front of it, and the names of its columns.
structure Naming where
  explicit : Bool
  name     : Word
  columns  : List Word := []

-- Columns in parentheses, if there are any.
def columnTokens (ws : List Word) : List Token :=
  if ws.isEmpty then [] else parenTokens (commaTokens (ws.map fun w => [w.token]))

namespace Naming

def tree (a : Naming) : Alias :=
  ⟨a.explicit, a.name.ident, a.columns.map fun w => { name := w.ident }⟩

def tokens (a : Naming) : List Token :=
  (if a.explicit then [.ofWord "AS"] else []) ++ a.name.token :: columnTokens a.columns

def text (a : Naming) : String :=
  " " ++ (if a.explicit then "AS " else "") ++ a.name.text ++
    (if a.columns.isEmpty then "" else " (" ++ commas (a.columns.map Word.text) ++ ")")

structure Spelled (a : Naming) : Prop where
  name : a.name.Spelled
  columns : ∀ w ∈ a.columns, w.Spelled
  bare : a.explicit ∨ a.name.isTableAlias

end Naming

def namingTokens (o : Option Naming) : List Token := (o.map Naming.tokens).getD []

def namingText (o : Option Naming) : String := (o.map Naming.text).getD ""

variable {depth m k k' qk lk rk : Nat} {l l' l'' : Lexeme} {ls rest after : List Lexeme} {r : Rules}
  {t : Token} {ts lts rts : List Token} {w : Word} {ws : List Word} {a : Naming}
  {o : Option Naming} {s s' right : Source} {q : Query}

section Names

theorem fails_typeName (hl : l.token.isWord = false) : Fails (typeName (rules (m + 1))) depth
    (l :: ls) := by
  have read : Fails (readType (rules m)) depth (l :: ls) := by
    refine .bind_right yields_lexeme ?_
    simp only [hl, Bool.not_false, if_true]
    exact (fails_expectedAt _ _).bind_left
  have type : Fails ((rules (m + 1)).dataType) depth (l :: ls) := read.bind_left
  exact type.bind_left

-- A column without a type.
def aliasColumn (r : Rules) : Parser AliasColumn := do
  let name ← ident
  return ⟨name, ← attempt (typeName r)⟩

theorem reads_aliasColumn (hw : w.Spelled) :
    ReadsBefore aliasColumn [",", ")"] { name := w.ident } [w.token] 0 := by
  intro m depth ls after hls hm _ hafter
  obtain ⟨m, rfl⟩ : ∃ m', m = m' + 1 := ⟨m - 1, by omega⟩
  obtain ⟨p, gap, rfl⟩ := exists_lexeme hls
  have ⟨keyword, word⟩ := hw.word
  obtain ⟨l, rest, rfl, hl⟩ := hafter
  have unword : l.token.isWord = false := by
    unfold Token.isAmong at hl
    split at hl
    case h_3 =>
      rw [Bool.and_eq_true, List.contains_iff_mem] at hl
      obtain ⟨hl, letters⟩ := hl
      fin_cases hl <;> cases letters
    case h_4 => cases hl
    all_goals simp_all [Token.isWord]
  exact (yields_ident word).bind ((fails_typeName unword).attempt.bind .pure)

theorem yields_aliasColumns (depth : Nat) (after : List Lexeme) (hw : ∀ w ∈ ws, w.Spelled)
    (hls : ls.map (·.token) = columnTokens ws) (hm : 4 * ls.length + 9 ≤ m)
    (hafter : ∃ l rest, after = l :: rest ∧ l.token.isSymbol "(" = false) :
    Yields (aliasColumns (rules m)) depth (ls ++ after)
      (ws.map fun w => ({ name := w.ident } : AliasColumn)) after := by
  unfold columnTokens at hls
  cases ws
  case nil =>
    obtain rfl := List.map_eq_nil_iff.mp hls
    obtain ⟨l, rest, rfl, hl⟩ := hafter
    exact (yields_no_symbol hl).bind .pure
  case cons w ws =>
    obtain ⟨first, inside, last, rfl, hfirst, hinside, hlast⟩ := exists_parens hls
    obtain ⟨l, rest, rfl, -⟩ := hafter
    let entry (w : Word) : Entry AliasColumn := ⟨{ name := w.ident }, w.text, [w.token]⟩
    have each : ∀ x ∈ (w :: ws).map entry,
        ReadsBefore aliasColumn [",", ")"] x.tree x.tokens 0 := by
      rw [List.forall_mem_map]
      exact fun w hw' => reads_aliasColumn (hw w hw')
    have begins : ∀ x ∈ (w :: ws).map entry, Begins (fun _ => True) x.tokens := by
      rw [List.forall_mem_map]
      exact fun w _ => ⟨w.token, [], rfl, trivial⟩
    have tokens : inside.map (·.token) = commaTokens (((w :: ws).map entry).map (·.tokens)) := by
      rw [List.map_map]
      exact hinside
    have read := yields_entries [")"] (by simp) each begins (by decide) (by decide)
      (by decide) m depth inside (last :: l :: rest) tokens (by simp at hm; omega) (Nat.zero_le _)
      (stops_closing hlast _)
    have opened : Yields (symbol? "(") depth (first :: (inside ++ last :: l :: rest)) true
        (inside ++ last :: l :: rest) := by
      cases inside <;> exact yields_symbol hfirst
    have columns : Yields (commaSeparated (aliasColumn (rules m))) depth
        (inside ++ last :: l :: rest) ((w :: ws).map fun w => ({ name := w.ident } : AliasColumn))
        (last :: l :: rest) := by
      rw [List.map_map] at read
      exact read
    simp only [List.cons_append, List.append_assoc, List.nil_append]
    refine opened.bind (.bind (p := pure false) .pure ?_)
    exact columns.bind ((yields_expectSymbol hlast).bind .pure)

end Names

section Aliases

theorem yields_tableAliasName {found : Option Ident} (h : Yields (aliasBut? Words.tableStops) depth
    ls found rest) : Yields tableAliasName? depth ls found rest := h

theorem no_tableAliasName (hafter : Stops factorStops after) :
    Yields tableAliasName? depth after none after := by
  have unmarked : Yields (keyword? "AS") depth after false after := hafter.no_keyword (by decide)
  obtain ⟨l, rest, rfl, hl⟩ := hafter
  refine yields_tableAliasName (unmarked.bind (yields_lexeme.bind ?_))
  unfold Token.isAmong at hl
  split at hl
  case h_1 e | h_2 e =>
    rw [e]
    exact .pure
  case h_3 text k e =>
    rw [Bool.and_eq_true, List.contains_iff_mem] at hl
    have refused : Words.tableStops.contains k := by
      obtain ⟨hl, letters⟩ := hl
      fin_cases hl
      all_goals first | rfl | cases letters
    rw [e]
    simp only [refused]
    exact .pure
  case h_4 => cases hl

theorem yields_tableAliasName_marked (hw : w.Spelled) (hl : l.token = .ofWord "AS")
    (hl' : l'.token = w.token) :
    Yields tableAliasName? depth (l :: l' :: l'' :: rest) (some w.ident) (l'' :: rest) := by
  have ⟨k, word⟩ := hw.word
  have word := hl'.trans word
  have more : l'.token.isEof = false := word ▸ rfl
  refine yields_tableAliasName ((yields_keyword (by rw [hl]; rfl) (by decide)).bind ?_)
  refine yields_lexeme.bind ?_
  rw [word]
  exact (yields_skip more).bind .pure

theorem not_tableStop (hw : w.Spelled) (bare : w.isTableAlias) (hl : l.token = w.token)
    {stop : String} (listed : stop ∈ "AS" :: Words.tableStops) (hs : stop ≠ "") :
    l.token.isKeyword stop = false := by
  have ⟨k, word⟩ := hw.word
  have free : ¬("AS" :: Words.tableStops).contains k := by
    simpa [Word.isTableAlias, word] using bare
  rw [hl, word, Token.isKeyword, beq_eq_false_iff_ne]
  cases w.ident.quote
  · rintro rfl
    exact free (List.contains_iff_mem.mpr listed)
  · exact hs.symm

theorem yields_tableAliasName_bare (hw : w.Spelled) (bare : w.isTableAlias)
    (hl : l.token = w.token) : Yields tableAliasName? depth (l :: l' :: rest) (some w.ident)
      (l' :: rest) := by
  have ⟨k, word⟩ := hw.word
  have free : ¬("AS" :: Words.tableStops).contains k := by
    simpa [Word.isTableAlias, word] using bare
  have unmarked := not_tableStop hw bare hl (.head _) (by decide)
  have taken : Words.tableStops.contains k = false := by
    rw [Bool.not_eq_true, List.contains_cons, Bool.or_eq_false_iff] at free
    exact free.2
  have word := hl.trans word
  have more : l.token.isEof = false := word ▸ rfl
  refine yields_tableAliasName ((yields_no_keyword unmarked).bind (yields_lexeme.bind ?_))
  rw [word]
  simp only [taken]
  exact (yields_skip more).bind .pure

theorem yields_tableAlias (depth : Nat) (ho : ∀ a ∈ o, a.Spelled)
    (hls : ls.map (·.token) = namingTokens o) (hm : 4 * ls.length + 5 ≤ m)
    (hafter : Stops factorStops after) :
    Yields (tableAlias? (rules m)) depth (ls ++ after) (o.map Naming.tree) after := by
  cases o
  case none =>
    obtain rfl := List.map_eq_nil_iff.mp hls
    exact (hafter.no_peekKeyword (by decide)).bind ((no_tableAliasName hafter).bind .pure)
  case some a =>
    have spelled := ho a rfl
    obtain ⟨mark, ls, rfl, hmark, hls⟩ := List.map_eq_append_iff.mp hls
    obtain ⟨l, columns, rfl, hl, hcolumns⟩ := List.map_eq_cons_iff.mp hls
    have unopened : ∃ l rest, after = l :: rest ∧ l.token.isSymbol "(" = false := by
      obtain ⟨l, rest, rfl, hl⟩ := hafter
      exact ⟨l, rest, rfl, Token.isSymbol_of_isAmong hl (by decide)⟩
    have read := yields_aliasColumns depth after (m := m) spelled.columns hcolumns
      (by simp at hm; omega) unopened
    obtain ⟨l', rest, e⟩ : ∃ l' rest, columns ++ after = l' :: rest := by
      obtain ⟨l', rest, rfl, -⟩ := hafter
      cases columns <;> exact ⟨_, _, rfl⟩
    have named := read.bind (q := fun cs => pure (some (Alias.mk a.explicit a.name.ident cs))) .pure
    rw [Option.map_some, Naming.tree]
    cases explicit : a.explicit
    case false =>
      rw [explicit] at hmark named
      obtain rfl := List.map_eq_nil_iff.mp hmark
      have bare : a.name.isTableAlias := by simpa [explicit] using spelled.bare
      have unmarked : l.token.isKeyword "AS" = false := 
        not_tableStop spelled.name bare hl (.head _) (by decide)
      rw [List.nil_append, List.cons_append, e] at *
      have peek : Yields (peekKeyword "AS") depth (l :: l' :: rest) false (l :: l' :: rest) :=
        unmarked ▸ yields_peekKeyword "AS"
      exact peek.bind ((yields_tableAliasName_bare spelled.name bare hl).bind named)
    case true =>
      rw [explicit] at hmark named
      obtain ⟨as, rfl, has⟩ := List.map_eq_singleton_iff.mp hmark
      rw [List.append_assoc, List.singleton_append, List.cons_append, e] at *
      have marked : as.token.isKeyword "AS" := has ▸ rfl
      have peek : Yields (peekKeyword "AS") depth (as :: l :: l' :: rest) true
          (as :: l :: l' :: rest) := marked ▸ yields_peekKeyword "AS"
      exact peek.bind ((yields_tableAliasName_marked spelled.name has hl).bind named)

end Aliases

-- A source without joins reads back in front of what may follow it.
def FactorReads (s : Source) (ts : List Token) (levels : Nat) : Prop :=
  ReadsWithin 7 factor factorStops s ts levels

-- A source with its joins reads back, one join after the other.
def SourceReads (s : Source) (ts : List Token) (levels : Nat) : Prop :=
  ∀ m depth ls after, ls.map (·.token) = ts → 4 * ls.length + 7 ≤ m → levels ≤ depth →
    Stops joinStops after → ∃ s' mid, Yields (factor (rules m)) depth (ls ++ after) s' mid ∧
      Relation.ReflTransGen (Advances (join? (rules (m + 1))) depth) (s', mid) (s, after)

section Factors

theorem FactorReads.source (hs : FactorReads s ts k) : SourceReads s ts k := by
  intro m depth ls after hls hm hk hafter
  exact ⟨s, after, hs m depth ls after hls hm hk (hafter.mono (by decide)), .refl⟩

theorem no_pivots (hafter : Stops factorStops after) :
    Yields (pivots r s) depth after s after :=
  yields_repeated_none ((hafter.no_oneOf (by decide)).bind .pure)

theorem FactorReads.derived (hq : ReadsBefore (fun r => r.query) [")"] q ts k) (hts : ts ≠ [])
    (ho : ∀ a ∈ o, a.Spelled) (lateral : Bool) :
    FactorReads (.derived lateral q (o.map Naming.tree))
      ((if lateral then [.ofWord "LATERAL"] else []) ++ (parenTokens ts ++ namingTokens o)) k := by
  intro m depth ls after hls hm hk hafter
  obtain ⟨mark, ls, rfl, hmark, hls⟩ := List.map_eq_append_iff.mp hls
  obtain ⟨enclosed, naming, rfl, henclosed, hnaming⟩ := List.map_eq_append_iff.mp hls
  obtain ⟨first, inside, last, rfl, hfirst, hinside, hlast⟩ := exists_parens henclosed
  have read := hq m depth inside (last :: (naming ++ after)) hinside (by simp at hm; omega) hk
    (stops_closing hlast _)
  have named := yields_tableAlias depth (m := m) ho hnaming (by simp at hm; omega) hafter
  obtain ⟨l, rest, e⟩ : ∃ l rest, naming ++ after = l :: rest := by
    obtain ⟨l, rest, rfl, -⟩ := hafter
    cases naming <;> exact ⟨_, _, rfl⟩
  obtain ⟨l', inside, rfl⟩ := List.exists_cons_of_ne_nil
    (by rintro rfl; exact hts hinside.symm : inside ≠ [])
  rw [e] at read named
  have closed : Yields (expectSymbol ")") depth (last :: l :: rest) () (l :: rest) :=
    yields_expectSymbol hlast
  have query : Yields (Parser.derived (rules m) lateral) depth
      (l' :: inside ++ last :: l :: rest) (.derived lateral q (o.map Naming.tree)) after :=
    read.bind (closed.bind (named.bind .pure))
  have opened : Yields (symbol? "(") depth (first :: (l' :: inside ++ last :: l :: rest)) true
      (l' :: inside ++ last :: l :: rest) := yields_symbol hfirst
  cases lateral
  case false =>
    obtain rfl := List.map_eq_nil_iff.mp hmark
    have no {k : String} (hk : k ≠ "") :
        Yields (keyword? k) depth (first :: (l' :: inside ++ last :: l :: rest)) false
          (first :: (l' :: inside ++ last :: l :: rest)) :=
      yields_no_keyword (by rw [hfirst]; exact beq_eq_false_iff_ne.mpr hk.symm)
    simp only [List.nil_append, List.cons_append, List.append_assoc, e] at *
    refine yields_dialect.bind ((no (by decide)).bind ((no (by decide)).bind (opened.bind ?_)))
    exact query.attempt.bind (no_pivots hafter)
  case true =>
    obtain ⟨p, gap, rfl⟩ := exists_lexeme hmark
    simp only [List.nil_append, List.cons_append, List.append_assoc, e] at *
    exact yields_dialect.bind ((yields_keyword rfl (by decide)).bind (opened.bind query))

-- One argument of a table function, and whether it ends them.
def tableArgument (r : Rules) : Parser (Bool × List Piece) := do
  match ← settings? r with
  | some pieces => return (true, pieces)
  | none => return (false, Phrase.item (← argument r))

theorem yields_tableArgument {i : Item} (hl : l.token.isKeyword "SETTINGS" = false)
    (read : Yields (argument r) depth (l :: ls) i rest) :
    Yields (tableArgument r) depth (l :: ls) (false, Phrase.item i) rest := by
  have unset : Yields (settings? r) depth (l :: ls) none (l :: ls) :=
    yields_dialect.bind ((yields_no_keyword hl).bind .pure)
  exact unset.bind (read.bind .pure)

def moreArguments (r : Rules) :
    Bool × List (List Piece) → Parser (Option (Bool × List (List Piece))) :=
  fun (last, items) => do
    if last then return none
    if ← symbol? "," then
      let (last, more) ← tableArgument r
      return some (last, items ++ [more])
    else return none

theorem exists_moreArguments {is : List Item}
    (h : Listed (argument r) (fun l => l.token.isKeyword "SETTINGS" = false) depth ls is rest)
    (first : ∃ l ls', ls = l :: ls' ∧ l.token.isKeyword "SETTINGS" = false) :
    ∃ i mid, Yields (tableArgument r) depth ls (false, Phrase.item i) mid ∧
      mid.length < ls.length ∧
      (∀ acc, Relation.ReflTransGen (Advances (moreArguments r) depth)
        ((false, acc ++ [Phrase.item i]), mid) ((false, acc ++ is.map Phrase.item), rest)) ∧
      ∀ items, Yields (moreArguments r (false, items)) depth rest none rest := by
  induction h
  case last read shorter hl =>
    obtain ⟨l, ls', rfl, start⟩ := first
    exact ⟨_, _, yields_tableArgument start read, shorter, fun _ => .refl,
      fun _ => (yields_no_symbol hl).bind .pure⟩
  case more ls mid rest comma l a as read shorter hc hs _ hi =>
    obtain ⟨l', ls', rfl, start⟩ := first
    have ⟨b, mid', read', shorter', loop, stop⟩ := hi ⟨l, mid, rfl, hs⟩
    refine ⟨a, comma :: l :: mid, yields_tableArgument start read, shorter, fun acc => ?_, stop⟩
    have step : Advances (moreArguments r) depth
        ((false, acc ++ [Phrase.item a]), comma :: l :: mid)
        ((false, acc ++ [Phrase.item a] ++ [Phrase.item b]), mid') := by
      refine ⟨(yields_comma hc).bind (read'.bind .pure), ?_⟩
      simp only [List.length_cons] at shorter' ⊢
      omega
    have whole : acc ++ (a :: as).map Phrase.item =
        acc ++ [Phrase.item a] ++ as.map Phrase.item := by simp
    rw [whole]
    exact .head step (loop _)

end Factors

-- A table by its name, or a call of a function in place of one.
structure Relation where
  name   : Word
  more   : List Word := []
  args   : Option (List (Entry Item)) := none
  naming : Option Naming := none

namespace Relation

variable {t : Relation}

def argumentPieces (t : Relation) : List Piece :=
  match t.args with
  | none => []
  | some [] => Phrase.words "()"
  | some xs => Phrase.parens (Phrase.commas (xs.map fun x => Phrase.item x.tree))

def argumentTokens (t : Relation) : List Token :=
  match t.args with
  | none => []
  | some xs => parenTokens (commaTokens (xs.map (·.tokens)))

def tree (t : Relation) : Source :=
  .table ((t.name :: t.more).map Word.ident) t.argumentPieces (t.naming.map Naming.tree) []

def tokens (t : Relation) : List Token :=
  pathTokens ((t.name :: t.more).map Word.token) ++ (t.argumentTokens ++ namingTokens t.naming)

def text (t : Relation) : String :=
  ".".intercalate ((t.name :: t.more).map Word.text) ++
    (match t.args with
      | none => ""
      | some xs => "(" ++ commas (xs.map (·.text)) ++ ")") ++ namingText t.naming

structure Reads (t : Relation) (k : Nat) : Prop where
  words : ∀ w ∈ t.name :: t.more, w.Spelled
  plain : t.name.token.keyword ∉ factorWords
  args : ∀ xs ∈ t.args, ∀ x ∈ xs, ReadsBefore argument argumentStops x.tree x.tokens k
  starts : ∀ xs ∈ t.args, ∀ x ∈ xs,
    Begins (fun t => t.isKeyword "SETTINGS" = false ∧ t.isSymbol ")" = false) x.tokens
  naming : ∀ a ∈ t.naming, a.Spelled

theorem Reads.yields_arguments (depth : Nat) (after : List Lexeme) (ht : t.Reads k)
    (hls : ls.map (·.token) = t.argumentTokens) (hm : 4 * ls.length + 1 ≤ m) (hk : k ≤ depth)
    (hafter : ∃ l rest, after = l :: rest ∧ l.token.isSymbol "(" = false) :
    Yields (do if ← symbol? "(" then tableArguments (rules m) else return []) depth (ls ++ after)
      t.argumentPieces after := by
  obtain ⟨l, rest, rfl, hl⟩ := hafter
  unfold argumentTokens at hls
  unfold argumentPieces
  have args := ht.args
  have starts := ht.starts
  cases e : t.args
  case none =>
    rw [e] at hls
    obtain rfl := List.map_eq_nil_iff.mp hls
    exact (yields_no_symbol hl).bind .pure
  case some xs =>
    rw [e] at hls args starts
    replace args := args xs rfl
    replace starts := starts xs rfl
    obtain ⟨first, inside, last, rfl, hfirst, hinside, hlast⟩ := exists_parens hls
    have opened : Yields (symbol? "(") depth (first :: (inside ++ last :: l :: rest)) true
        (inside ++ last :: l :: rest) := by
      cases inside <;> exact yields_symbol hfirst
    simp only [List.cons_append, List.append_assoc, List.nil_append]
    refine opened.bind ?_
    cases xs
    case nil =>
      obtain rfl := List.map_eq_nil_iff.mp hinside
      exact (yields_symbol hlast).bind .pure
    case cons x xs =>
      have begins : Begins _ (commaTokens ((x :: xs).map (·.tokens))) :=
        .commas (by simp) (by simpa using starts)
      have listed := listed [")"] depth (m := m) (by simp) args
        (fun y hy => (starts y hy).imp fun _ h => h.1) (by decide) (by decide) (by decide) hinside
        (by simp at hm; omega) hk (stops_closing hlast (l :: rest))
      obtain ⟨l', inside, rfl, unset, unclosed⟩ := begins.exists_cons hinside
      obtain ⟨i, mid, first, -, loop, stop⟩ := exists_moreArguments listed ⟨l', _, rfl, unset⟩
      have more : Yields (repeated (moreArguments (rules m)) (false, [Phrase.item i])) depth mid
          (false, ((x :: xs).map (·.tree)).map Phrase.item) (last :: l :: rest) :=
        yields_repeated (loop []) (stop _)
      refine (yields_no_symbol unclosed).bind (first.bind (.bind more ?_))
      refine (yields_expectSymbol hlast).bind ?_
      rw [List.map_map]
      exact .pure

-- Points, each with a name behind it, up to what is no point.
theorem dotted (hw : ∀ w' ∈ w :: ws, w'.Spelled)
    (hls : ls.map (·.token) = pathTokens ((w :: ws).map Word.token))
    (hafter : ∃ l rest, after = l :: rest ∧ l.token.isSymbol "." = false) :
    ∃ l ls', ls = l :: ls' ∧ l.token = w.token ∧
      Dotted (ls' ++ after) (ws.map Word.ident) after := by
  induction ws generalizing w ls
  case nil =>
    obtain ⟨l, rfl, hl⟩ := List.map_eq_singleton_iff.mp hls
    obtain ⟨l', rest, rfl, hl'⟩ := hafter
    exact ⟨l, [], rfl, hl, .nil hl'⟩
  case cons w' ws hi =>
    obtain ⟨l, ls, rfl, hl, hls⟩ := List.map_eq_cons_iff.mp hls
    obtain ⟨dot, ls, rfl, hdot, hls⟩ := List.map_eq_cons_iff.mp hls
    have ⟨_, others⟩ := List.forall_mem_cons.mp hw
    obtain ⟨l', ls, rfl, hl', path⟩ := hi others hls
    have ⟨k, word⟩ := (others w' (.head _)).word
    exact ⟨l, dot :: l' :: ls, rfl, hl, .cons hdot (hl'.trans word) path⟩

theorem exists_naming (ho : ∀ a ∈ o, a.Spelled) (hls : ls.map (·.token) = namingTokens o)
    (hafter : Stops factorStops after) : ∃ l rest, ls ++ after = l :: rest ∧
      l.token.isSymbol "(" = false ∧ l.token.isSymbol "." = false ∧
      l.token.isKeyword "WITH" = false ∧ l.token.isKeyword "PARTITION" = false := by
  cases o
  case none =>
    obtain rfl := List.map_eq_nil_iff.mp hls
    obtain ⟨l, rest, rfl, hl⟩ := hafter
    exact ⟨l, rest, rfl, Token.isSymbol_of_isAmong hl (by decide),
      Token.isSymbol_of_isAmong hl (by decide), Token.isKeyword_of_isAmong hl (by decide),
      Token.isKeyword_of_isAmong hl (by decide)⟩
  case some a =>
    have spelled := ho a rfl
    have ⟨k, word⟩ := spelled.name.word
    obtain ⟨mark, ls, rfl, hmark, hls⟩ := List.map_eq_append_iff.mp hls
    obtain ⟨l, ls, rfl, hl, -⟩ := List.map_eq_cons_iff.mp hls
    cases explicit : a.explicit
    case true =>
      rw [explicit] at hmark
      obtain ⟨p, gap, rfl⟩ := exists_lexeme hmark
      exact ⟨_, _, rfl, rfl, rfl, rfl, rfl⟩
    case false =>
      rw [explicit] at hmark
      obtain rfl := List.map_eq_nil_iff.mp hmark
      have bare : a.name.isTableAlias := by simpa [explicit] using spelled.bare
      have apart {stop : String} (listed : stop ∈ "AS" :: Words.tableStops) (hs : stop ≠ "") :
          l.token.isKeyword stop = false := not_tableStop spelled.name bare hl listed hs
      exact ⟨l, _, rfl, by rw [hl, word]; rfl, by rw [hl, word]; rfl, apart (by decide) (by decide),
        apart (by decide) (by decide)⟩

theorem no_documentTable (hl : l.token.keyword ∉ factorWords) :
    Yields (documentTable? r) depth (l :: ls) none (l :: ls) := by
  refine yields_token.bind ?_
  refine Yields.bind (p := tokenAt 1) (a := ((l :: ls).getD 1 eofLexeme).token) rfl ?_
  split
  case isTrue => exact .pure
  case isFalse =>
    dsimp only
    split
    case h_4 => exact .pure
    all_goals
      rename_i e
      exact absurd (by rw [e]; decide) hl

theorem yields_tokenAt (n : Nat) :
    Yields (tokenAt n) depth ls (ls.getD n eofLexeme).token ls := rfl

theorem Reads.factor (ht : t.Reads k) : FactorReads t.tree t.tokens k := by
  intro m depth ls after hls hm hk hafter
  obtain ⟨path, ls, rfl, hpath, hls⟩ := List.map_eq_append_iff.mp hls
  obtain ⟨args, naming, rfl, hargs, hnaming⟩ := List.map_eq_append_iff.mp hls
  obtain ⟨l', rest, e, paren, point, ordinal, partition⟩ := exists_naming ht.naming hnaming hafter
  have readNaming := yields_tableAlias depth (m := m) ht.naming hnaming
    (by simp at hm; omega) hafter
  have readArgs := ht.yields_arguments depth (naming ++ after) (m := m) hargs
    (by simp at hm; omega) hk ⟨l', rest, e, paren⟩
  have ⟨x, more, ex, xpoint, xpartition⟩ : ∃ x more, args ++ (naming ++ after) = x :: more ∧
      x.token.isSymbol "." = false ∧ x.token.isKeyword "PARTITION" = false := by
    obtain _ | ⟨x, args⟩ := args
    · exact ⟨l', rest, e, point, partition⟩
    · have first : x.token = .symbol "(" := by
        unfold argumentTokens at hargs
        split at hargs
        case h_1 => cases hargs
        case h_2 => exact (List.cons.inj hargs).1
      exact ⟨x, _, rfl, by rw [first]; rfl, by rw [first]; rfl⟩
  obtain ⟨l, ls, rfl, hl, path⟩ := dotted ht.words hpath ⟨x, more, ex, xpoint⟩
  have ⟨keyword, word⟩ := (ht.words t.name (.head _)).word
  have word := hl.trans word
  have plain : l.token.keyword ∉ factorWords := hl ▸ ht.plain
  have readName := path.yields_name depth word
  have unpartitioned : Yields (peekKeyword "PARTITION") depth (args ++ (naming ++ after)) false
      (args ++ (naming ++ after)) := by
    rw [ex]
    exact xpartition ▸ yields_peekKeyword "PARTITION"
  have named : Yields (namedSource (rules m)) depth (l :: (ls ++ (args ++ (naming ++ after))))
      t.tree after := by
    refine yields_dialect.bind (readName.bind ?_)
    refine Yields.bind (a := []) (unpartitioned.bind .pure) (readArgs.bind ?_)
    refine Yields.bind (a := false) ?_ (readNaming.bind ?_)
    · rw [e]
      exact no_keywords_first ordinal
    refine Yields.bind (a := []) .pure (.bind (a := []) ((hafter.no_peekKeyword (by decide)).bind
      ((yields_tokenAt 1).bind .pure)) ?_)
    refine Yields.bind (a := []) ((hafter.no_oneOf (by decide)).bind .pure) ?_
    refine (no_pivots hafter).bind ((hafter.no_peekKeyword (by decide)).bind ?_)
    simp only [Phrase.flag, List.nil_append, List.append_nil, Bool.false_eq_true, if_false]
    exact .pure
  have apart {k : String} (hk : k ∈ factorWords) : l.token.isKeyword k = false := by
    refine beq_eq_false_iff_ne.mpr ?_
    rintro rfl
    exact plain hk
  have no {k : String} (hk : k ∈ factorWords) :
      Yields (peekKeyword k) depth (l :: (ls ++ (args ++ (naming ++ after)))) false
        (l :: (ls ++ (args ++ (naming ++ after)))) := apart hk ▸ yields_peekKeyword k
  have factored : Yields (Parser.factor (rules m)) depth
      (l :: (ls ++ (args ++ (naming ++ after)))) t.tree after := by
    refine yields_dialect.bind ((yields_no_keyword (apart (k := "LATERAL") (by decide))).bind ?_)
    refine (yields_no_keyword (apart (k := "TABLE") (by decide))).bind ?_
    refine (yields_no_symbol (by rw [word]; rfl)).bind ?_
    refine (no (k := "VALUES") (by decide)).bind ((yields_tokenAt 1).bind ?_)
    refine (no (k := "UNNEST") (by decide)).bind ?_
    exact (no_documentTable plain).bind named
  simpa using factored

end Relation

section Joins

theorem no_join (hafter : Stops sourceStops after) :
    Yields (join? r s) depth after none after := by
  have no {k : String} (hk : k ∉ "" :: sourceStops) : Yields (keyword? k) depth after false after :=
    hafter.no_keyword hk
  have unjoined : Yields (joinOperator? false) depth after none after := by
    obtain ⟨l, rest, rfl, hl⟩ := hafter
    refine yields_token.bind ?_
    unfold Token.isAmong at hl
    split at hl
    case h_1 e | h_2 e =>
      rw [e]
      exact .pure
    case h_3 text k e =>
      rw [Bool.and_eq_true, List.contains_iff_mem] at hl
      obtain ⟨hl, -⟩ := hl
      rw [e]
      fin_cases hl
      all_goals exact .pure
    case h_4 => cases hl
  refine yields_dialect.bind ((no (by decide)).bind ((no (by decide)).bind ?_))
  refine (no (by decide)).bind ((no (by decide)).bind ((no (by decide)).bind ?_))
  exact unjoined.bind .pure

theorem SourceReads.before (hs : SourceReads s ts k) :
    ReadsBefore (fun r => r.source) sourceStops s ts k := by
  intro m depth ls after hls hm hk hafter
  obtain ⟨m, rfl⟩ : ∃ m', m = m' + 2 := ⟨m - 2, by omega⟩
  have ⟨s', mid, factor, joins⟩ := hs m depth ls after hls (by omega) hk
    (hafter.mono (by decide))
  exact factor.bind (yields_repeated joins (no_join hafter))

theorem FactorReads.nested (hs : SourceReads s ts k) (join : s.isJoin)
    (plain : startsQuery ts = false) (hts : ts ≠ []) (hk : openings ts + 1 ≤ k)
    (ho : ∀ a ∈ o, a.Spelled) :
    FactorReads (.nested s (o.map Naming.tree)) (parenTokens ts ++ namingTokens o) k := by
  intro m depth ls after hls hm hk' hafter
  obtain ⟨enclosed, naming, rfl, henclosed, hnaming⟩ := List.map_eq_append_iff.mp hls
  obtain ⟨first, inside, last, rfl, hfirst, hinside, hlast⟩ := exists_parens henclosed
  have read := hs.before m depth inside (last :: (naming ++ after)) hinside (by simp at hm; omega)
    hk' ((stops_closing hlast _).mono (by decide))
  have unread : Fails (rules m).query depth (inside ++ last :: (naming ++ after)) :=
    fails_query hinside plain hlast (by simp [Unfolded] at hm ⊢; omega) (by omega)
  have named := yields_tableAlias depth (m := m) ho hnaming (by simp at hm; omega) hafter
  obtain ⟨l, rest, e⟩ : ∃ l rest, naming ++ after = l :: rest := by
    obtain ⟨l, rest, rfl, -⟩ := hafter
    cases naming <;> exact ⟨_, _, rfl⟩
  obtain ⟨l', inside, rfl⟩ := List.exists_cons_of_ne_nil
    (by rintro rfl; exact hts hinside.symm : inside ≠ [])
  have no {k : String} (hk : k ≠ "") : Yields (keyword? k) depth
      (first :: (l' :: (inside ++ last :: (naming ++ after)))) false
      (first :: (l' :: (inside ++ last :: (naming ++ after)))) :=
    yields_no_keyword (by rw [hfirst]; exact beq_eq_false_iff_ne.mpr hk.symm)
  have closed :
      Yields (expectSymbol ")") depth (last :: (naming ++ after)) () (naming ++ after) := by
    rw [e]
    exact yields_expectSymbol hlast
  have source : Yields (parenSource (rules m)) depth (l' :: (inside ++ last :: (naming ++ after)))
      (.nested s (o.map Naming.tree)) after := by
    refine read.bind ?_
    simp only [join, Bool.true_or, if_true]
    exact closed.bind (named.bind .pure)
  have factored : Yields (factor (rules m)) depth
      (first :: (l' :: (inside ++ last :: (naming ++ after)))) (.nested s (o.map Naming.tree))
      after := by
    refine yields_dialect.bind ((no (k := "LATERAL") (by decide)).bind ?_)
    refine (no (k := "TABLE") (by decide)).bind ((yields_symbol hfirst).bind ?_)
    exact (Fails.attempt (p := Parser.derived (rules m) false) unread.bind_left).bind source
  simpa using factored

-- The words of a join.
def joinWords : JoinOperator → List String
  | .join       => ["JOIN"]
  | .inner      => ["INNER", "JOIN"]
  | .left       => ["LEFT", "JOIN"]
  | .leftOuter  => ["LEFT", "OUTER", "JOIN"]
  | .right      => ["RIGHT", "JOIN"]
  | .rightOuter => ["RIGHT", "OUTER", "JOIN"]
  | .full       => ["FULL", "JOIN"]
  | .cross      => ["CROSS", "JOIN"]
  | .semi       => ["SEMI", "JOIN"]
  | .leftSemi   => ["LEFT", "SEMI", "JOIN"]
  | .rightSemi  => ["RIGHT", "SEMI", "JOIN"]
  | .anti       => ["ANTI", "JOIN"]
  | .leftAnti   => ["LEFT", "ANTI", "JOIN"]
  | .rightAnti  => ["RIGHT", "ANTI", "JOIN"]
  | .straight   => ["STRAIGHT_JOIN"]
  | .crossApply => ["CROSS", "APPLY"]
  | .outerApply => ["OUTER", "APPLY"]

-- Joins that take no constraint.
def isUntied : JoinOperator → Bool
  | .cross | .crossApply | .outerApply => true
  | _ => false

-- What ties two sources together, with its text.
inductive Tie where
  | none
  | natural
  | on (x : Entry Expr)
  -- A blank may stand in front of the parentheses.
  | columns (blank : Bool) (ws : List Word)

namespace Tie

def tree : Tie → JoinConstraint
  | .none => .none
  | .natural => .natural
  | .on x => .on x.tree
  | .columns _ ws => .columns (ws.map fun w => [w.ident])

def isNatural : Tie → Bool
  | .natural => true
  | _ => false

def tokens : Tie → List Token
  | .none | .natural => []
  | .on x => .ofWord "ON" :: x.tokens
  | .columns _ ws => .ofWord "USING" :: parenTokens (commaTokens (ws.map fun w => [w.token]))

def text : Tie → String
  | .none | .natural => ""
  | .on x => " ON " ++ x.text
  | .columns blank ws =>
    " USING" ++ (if blank then " " else "") ++ "(" ++ commas (ws.map Word.text) ++ ")"

structure Reads (tie : Tie) (k : Nat) : Prop where
  on : ∀ x, tie = .on x → x.tokens ≠ [] ∧
    ReadsBefore (fun r => r.expr 0) joinStops x.tree x.tokens k
  columns : ∀ blank ws, tie = .columns blank ws → ws ≠ [] ∧ ∀ w ∈ ws, w.Spelled

end Tie

-- The tokens between two sources.
def joinTokens (op : JoinOperator) (tie : Tie) : List Token :=
  (if tie.isNatural then [.ofWord "NATURAL"] else []) ++ (joinWords op).map .ofWord

theorem reads_name (hw : w.Spelled) :
    ReadsBefore (fun _ => name) [",", ")"] [w.ident] [w.token] 0 := by
  intro m depth ls after hls _ _ hafter
  obtain ⟨l, rfl, hl⟩ := List.map_eq_singleton_iff.mp hls
  have ⟨k, word⟩ := hw.word
  obtain ⟨l', rest, rfl, hl'⟩ := hafter
  have point : l'.token.isSymbol "." = false := Token.isSymbol_of_isAmong hl' (by decide)
  exact (Dotted.nil point).yields_name depth (hl.trans word)

variable {tie : Tie} {op : JoinOperator}

theorem Tie.Reads.yields (depth : Nat) (ht : tie.Reads k) (hls : ls.map (·.token) = tie.tokens)
    (hm : 4 * ls.length + 5 ≤ m) (hk : k ≤ depth) (hafter : Stops joinStops after) :
    Yields (joinConstraint (rules m) tie.isNatural) depth (ls ++ after) tie.tree after := by
  obtain ⟨l, rest, e, -⟩ := id hafter
  cases tie
  case none =>
    obtain rfl := List.map_eq_nil_iff.mp hls
    exact (hafter.no_keyword (by decide)).bind ((hafter.no_keyword (by decide)).bind .pure)
  case natural =>
    obtain rfl := List.map_eq_nil_iff.mp hls
    exact .pure
  case on x =>
    have ⟨filled, read⟩ := ht.on x rfl
    obtain ⟨p, gap, ls, rfl, hls'⟩ := exists_lexemes hls
    have read := read m depth ls after hls' (by simp at hm; omega) hk hafter
    obtain ⟨l', ls, rfl⟩ := List.exists_cons_of_ne_nil
      (by rintro rfl; exact filled hls'.symm : ls ≠ [])
    exact (yields_keyword rfl (by decide)).bind (read.bind .pure)
  case columns blank ws =>
    have ⟨filled, spelled⟩ := ht.columns blank ws rfl
    obtain ⟨p, gap, ls, rfl, hls'⟩ := exists_lexemes hls
    obtain ⟨first, inside, last, rfl, hfirst, hinside, hlast⟩ := exists_parens hls'
    let entry (w : Word) : Entry Name := ⟨[w.ident], w.text, [w.token]⟩
    have each : ∀ x ∈ ws.map entry, ReadsBefore (fun _ => name) [",", ")"] x.tree x.tokens 0 := by
      rw [List.forall_mem_map]
      exact fun w hw => reads_name (spelled w hw)
    have begins : ∀ x ∈ ws.map entry, Begins (fun _ => True) x.tokens := by
      rw [List.forall_mem_map]
      exact fun w _ => ⟨w.token, [], rfl, trivial⟩
    have tokens : inside.map (·.token) = commaTokens ((ws.map entry).map (·.tokens)) := by
      rw [List.map_map]
      exact hinside
    have read := yields_entries [")"] (by simpa using filled) each begins
      (by decide) (by decide) (by decide) m depth inside (last :: after) tokens
      (by simp at hm; omega) (Nat.zero_le _) (stops_closing hlast _)
    rw [List.map_map] at read
    have opened : Yields (symbol? "(") depth (first :: (inside ++ last :: after)) true
        (inside ++ last :: after) := by
      cases inside <;> exact yields_symbol hfirst
    subst e
    have closed : Yields (expectSymbol ")") depth (last :: l :: rest) () (l :: rest) :=
      yields_expectSymbol hlast
    have named : Yields (columnList true false name) depth
        (first :: (inside ++ last :: l :: rest)) (ws.map fun w => [w.ident]) (l :: rest) :=
      opened.bind (.bind (p := pure false) .pure (read.bind (closed.bind .pure)))
    simp only [List.cons_append, List.append_assoc, List.nil_append]
    refine (yields_no_keyword rfl).bind ?_
    exact (yields_keyword rfl (by decide)).bind (named.bind .pure)

theorem yields_joinOperator (depth : Nat) (l : Lexeme) (rest : List Lexeme)
    (tied : isUntied op = false) (hop : op ≠ .straight)
    (hls : ls.map (·.token) = (joinWords op).map .ofWord) (natural : Bool) :
    Yields (joinOperator? natural) depth (ls ++ l :: rest) (some op) (l :: rest) := by
  cases op
  case straight => contradiction
  case cross | crossApply | outerApply => cases tied
  case join =>
    obtain ⟨p, gap, rfl⟩ := exists_lexeme hls
    rfl
  case inner | left | right | full | semi | anti =>
    obtain ⟨p, gap, ls, rfl, hls'⟩ := exists_lexemes hls
    obtain ⟨p', gap', rfl⟩ := exists_lexeme hls'
    rfl
  all_goals
    obtain ⟨p, gap, ls, rfl, hls'⟩ := exists_lexemes hls
    obtain ⟨p', gap', ls, rfl, hls''⟩ := exists_lexemes hls'
    obtain ⟨p'', gap'', rfl⟩ := exists_lexeme hls''
    rfl

theorem exists_joinWord (hop : op ≠ .straight) (hls : ls.map (·.token) = joinTokens op tie) :
    ∃ l ls', ls = l :: ls' ∧ l.token.isAmong joinStops := by
  unfold joinTokens at hls
  cases natural : tie.isNatural
  case true =>
    rw [natural] at hls
    obtain ⟨p, gap, ls', rfl, -⟩ := exists_lexemes hls
    exact ⟨_, ls', rfl, rfl⟩
  case false =>
    rw [natural] at hls
    cases op
    case straight => contradiction
    all_goals
      obtain ⟨p, gap, ls', rfl, -⟩ := exists_lexemes hls
      exact ⟨_, ls', rfl, rfl⟩

-- A join that takes no constraint.
theorem yields_join_untied (untied : isUntied op)
    (hls : ls.map (·.token) = (joinWords op).map .ofWord)
    (hright : Yields r.factor depth (l :: rest) right after) :
    Yields (join? r s) depth (ls ++ l :: rest) (some (.join s false op right .none)) after := by
  cases op
  case cross =>
    obtain ⟨p, gap, ls, rfl, hls'⟩ := exists_lexemes hls
    obtain ⟨p', gap', rfl⟩ := exists_lexeme hls'
    refine yields_dialect.bind ((yields_no_keyword rfl).bind ?_)
    refine (yields_keyword rfl (by decide)).bind ((yields_keyword rfl (by decide)).bind ?_)
    exact hright.bind (.bind .pure .pure)
  case crossApply =>
    obtain ⟨p, gap, ls, rfl, hls'⟩ := exists_lexemes hls
    obtain ⟨p', gap', rfl⟩ := exists_lexeme hls'
    refine yields_dialect.bind ((yields_no_keyword rfl).bind ?_)
    refine (yields_keyword rfl (by decide)).bind ((yields_no_keyword rfl).bind ?_)
    exact (yields_keyword rfl (by decide)).bind (hright.bind .pure)
  case outerApply =>
    obtain ⟨p, gap, ls, rfl, hls'⟩ := exists_lexemes hls
    obtain ⟨p', gap', rfl⟩ := exists_lexeme hls'
    have apply : Yields (expectKeyword "APPLY") depth (⟨.ofWord "APPLY", p', gap'⟩ :: l :: rest) ()
        (l :: rest) := rfl
    refine yields_dialect.bind ((yields_no_keyword rfl).bind ((yields_no_keyword rfl).bind ?_))
    exact (yields_keyword rfl (by decide)).bind (apply.bind (hright.bind .pure))
  all_goals cases untied

-- What stands behind the first words of a join.
def joinTail (r : Rules) (s : Source) (natural : Bool) : Parser (Option Source) := do
  match ← joinOperator? natural with
  | none => return none
  | some op =>
    let right ← r.factor
    return some (.join s false op right (← joinConstraint r natural))

-- A join that may take one.
theorem yields_join_tied {c : JoinConstraint} {mid : List Lexeme} (tied : isUntied op = false)
    (hop : op ≠ .straight) (hls : ls.map (·.token) = joinTokens op tie)
    (hright : Yields r.factor depth (l :: rest) right mid)
    (htie : Yields (joinConstraint r tie.isNatural) depth mid c after) :
    Yields (join? r s) depth (ls ++ l :: rest) (some (.join s false op right c)) after := by
  obtain ⟨front, words, rfl, hfront, hwords⟩ := List.map_eq_append_iff.mp hls
  have joined := yields_joinOperator depth l rest tied hop hwords tie.isNatural
  have tail : Yields (joinTail r s tie.isNatural) depth (words ++ l :: rest)
      (some (.join s false op right c)) after := joined.bind (hright.bind (htie.bind .pure))
  cases natural : tie.isNatural
  case true =>
    rw [natural] at hfront tail
    obtain ⟨p, gap, rfl⟩ := exists_lexeme hfront
    obtain ⟨l', more, e⟩ : ∃ l' more, words ++ l :: rest = l' :: more := by
      cases words <;> exact ⟨_, _, rfl⟩
    rw [List.append_assoc, List.singleton_append, e]
    rw [e] at tail
    refine yields_dialect.bind ((yields_no_keyword rfl).bind ((yields_no_keyword rfl).bind ?_))
    refine (yields_no_keyword rfl).bind ((yields_no_keyword rfl).bind ?_)
    exact (yields_keyword rfl (by decide)).bind tail
  case false =>
    rw [natural] at hfront tail
    obtain rfl := List.map_eq_nil_iff.mp hfront
    obtain ⟨l', more, e, word⟩ : ∃ l' more, words ++ l :: rest = l' :: more ∧
        ∀ k ∈ ["GLOBAL", "CROSS", "OUTER", "ASOF", "NATURAL"], l'.token.isKeyword k = false := by
      cases op
      case straight => contradiction
      case cross | crossApply | outerApply => cases tied
      all_goals
        obtain ⟨p, gap, ls, rfl, -⟩ := exists_lexemes hwords
        exact ⟨_, _, rfl, by simp only [List.forall_mem_cons]; decide⟩
    rw [List.nil_append, e]
    rw [e] at tail
    refine yields_dialect.bind ((yields_no_keyword (word _ (by decide))).bind ?_)
    refine (yields_no_keyword (word "CROSS" (by decide))).bind ?_
    refine (yields_no_keyword (word "OUTER" (by decide))).bind ?_
    refine (yields_no_keyword (word "ASOF" (by decide))).bind ?_
    exact (yields_no_keyword (word "NATURAL" (by decide))).bind tail

theorem SourceReads.join (hl : SourceReads s lts lk) (hr : FactorReads right rts rk)
    (htie : tie.Reads k) (hop : op ≠ .straight) (untied : isUntied op → tie = .none)
    (hrts : rts ≠ []) :
    SourceReads (.join s false op right tie.tree)
      (lts ++ (joinTokens op tie ++ (rts ++ tie.tokens))) (max lk (max rk k)) := by
  intro m depth ls after hls hm hk hafter
  obtain ⟨left, ls, rfl, hleft, hls⟩ := List.map_eq_append_iff.mp hls
  obtain ⟨words, ls, rfl, hwords, hls⟩ := List.map_eq_append_iff.mp hls
  obtain ⟨right', behind, rfl, hright, hbehind⟩ := List.map_eq_append_iff.mp hls
  have tieStops : Stops factorStops (behind ++ after) := by
    cases tie
    case none | natural =>
      obtain rfl := List.map_eq_nil_iff.mp hbehind
      exact hafter.mono (by decide)
    case on | columns =>
      obtain ⟨p, gap, behind, rfl, -⟩ := exists_lexemes hbehind
      exact ⟨_, _, rfl, rfl⟩
  have readRight := hr m depth right' (behind ++ after) hright (by simp at hm; omega) (by omega)
    tieStops
  have readTie := htie.yields depth (m := m + 1) hbehind (by simp at hm; omega)
    (by omega) hafter
  have front : Stops joinStops (words ++ (right' ++ (behind ++ after))) := by
    obtain ⟨l, words, rfl, hl⟩ := exists_joinWord hop hwords
    exact ⟨l, _, rfl, hl⟩
  have ⟨s', mid, factor, joins⟩ := hl m depth left _ hleft (by simp at hm; omega) (by omega) front
  have shorter : after.length < (words ++ (right' ++ (behind ++ after))).length := by
    obtain ⟨l, words, rfl, -⟩ := exists_joinWord hop hwords
    simp
    omega
  obtain ⟨l, right', rfl⟩ := List.exists_cons_of_ne_nil
    (by rintro rfl; exact hrts hright.symm : right' ≠ [])
  have step : Yields (join? (rules (m + 1)) s) depth
      (words ++ (l :: right' ++ (behind ++ after))) (some (.join s false op right tie.tree))
      after := by
    cases tied : isUntied op
    case false => exact yields_join_tied tied hop hwords readRight readTie
    case true =>
      obtain rfl := untied tied
      obtain rfl := List.map_eq_nil_iff.mp hbehind
      exact yields_join_untied tied hwords readRight
  refine ⟨s', mid, by simpa using factor, joins.tail ⟨step, shorter⟩⟩

end Joins

end SqlLens.Sql
