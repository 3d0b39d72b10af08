import SqlLens.Proofs.Sql.Operand

namespace SqlLens.Sql

open SqlLens.Sql.Parser

variable {α β : Type} {depth m g h k k' : Nat} {l l' : Lexeme} {ls rest after : List Lexeme}
  {t : Token} {ts : List Token} {stops stops' closers ks : List String} {a : α} {e : Expr}
  {p : Rules → Parser α} {xs : List (Entry α)} {word : String}

namespace ReadsBefore

theorem weaken (h : ReadsBefore p stops a ts k) (hs : stops' ⊆ stops) (hk : k ≤ k') :
    ReadsBefore p stops' a ts k' := by
  intro m depth ls after hls hm hk' hafter
  exact h m depth ls after hls hm (hk.trans hk') (hafter.mono hs)

theorem parenthesized (depth : Nat) (rest : List Lexeme) (h : ReadsBefore p stops a ts k)
    (hs : ")" ∈ stops) (hts : ts ≠ []) (hls : ls.map (·.token) = parenTokens ts)
    (hm : 4 * ls.length + 1 ≤ m) (hk : k ≤ depth) :
    Yields (Parser.parenthesized (p (rules m))) depth (ls ++ l :: rest) a (l :: rest) := by
  obtain ⟨first, inside, last, rfl, hfirst, hinside, hlast⟩ := exists_parens hls
  have closing : Stops stops (last :: l :: rest) :=
    (stops_closing hlast _).mono (by simpa using hs)
  have read := h m depth inside _ hinside (by simp at hm; omega) hk closing
  obtain _ | ⟨l', inside⟩ := inside
  case nil => exact absurd hinside.symm hts
  case cons => simpa using yields_parenthesized hfirst hlast read

end ReadsBefore

theorem Reads.before (he : Reads e ts g h k) (hg : 0 < g) (sub : stops ⊆ clauseStops) :
    ReadsBefore (fun r => r.expr 0) stops e ts (k + 1) :=
  fun _ _ _ _ hls hm hk hs => he.clause hg hls hm hk hs sub

section Lists

theorem commaTokens_cons (hxs : tss ≠ []) :
    commaTokens (ts :: tss) = ts ++ .symbol "," :: commaTokens tss := by
  rw [commaTokens, List.intercalate_cons_of_ne_nil hxs, List.append_assoc]
  rfl

-- Whether the tokens begin with one of which `starts` holds.
def Begins (starts : Token → Prop) (ts : List Token) : Prop := ∃ t ts', ts = t :: ts' ∧ starts t

theorem Begins.imp {starts starts' : Token → Prop} (h : Begins starts ts)
    (imp : ∀ t, starts t → starts' t) : Begins starts' ts := by
  have ⟨t, ts', e, ht⟩ := h
  exact ⟨t, ts', e, imp t ht⟩

theorem Begins.commas {starts : Token → Prop} {tss : List (List Token)} (hts : tss ≠ [])
    (each : ∀ ts ∈ tss, Begins starts ts) : Begins starts (commaTokens tss) := by
  cases tss
  case nil => contradiction
  case cons ts tss =>
    have ⟨⟨t, ts', e, ht⟩, _⟩ := List.forall_mem_cons.mp each
    by_cases last : tss = []
    case pos =>
      subst last
      exact ⟨t, ts', by simpa [commaTokens, List.intercalate] using e, ht⟩
    case neg => exact ⟨t, _, by rw [commaTokens_cons last, e, List.cons_append], ht⟩

theorem Begins.exists_cons {starts : Token → Prop} (h : Begins starts ts)
    (hls : ls.map (·.token) = ts) : ∃ l rest, ls = l :: rest ∧ starts l.token := by
  obtain ⟨t, ts', rfl, ht⟩ := h
  obtain ⟨l, rest, rfl, rfl, _⟩ := List.map_eq_cons_iff.mp hls
  exact ⟨l, rest, rfl, ht⟩

-- Entries that read back one by one read back with commas between them.
theorem listed (closers : List String) (depth : Nat) {starts : Token → Prop} (hxs : xs ≠ [])
    (each : ∀ x ∈ xs, ReadsBefore p stops x.tree x.tokens k)
    (begins : ∀ x ∈ xs, Begins starts x.tokens) (comma : "," ∈ stops) (closing : closers ⊆ stops)
    (apart : "," ∉ closers) (hls : ls.map (·.token) = commaTokens (xs.map (·.tokens)))
    (hm : 4 * ls.length + 9 ≤ m) (hk : k ≤ depth) (hafter : Stops closers after) :
    Listed (p (rules m)) (fun l => starts l.token) depth (ls ++ after) (xs.map (·.tree)) after := by
  induction xs generalizing ls
  case nil => contradiction
  case cons x xs hi =>
    have ⟨first, others⟩ := List.forall_mem_cons.mp each
    have ⟨start, starts⟩ := List.forall_mem_cons.mp begins
    by_cases last : xs = []
    case pos =>
      subst last
      have hls : ls.map (·.token) = x.tokens := by
        simpa [commaTokens, List.intercalate] using hls
      have read := first m depth ls after hls hm hk (hafter.mono closing)
      obtain ⟨l, rest, rfl, hl⟩ := hafter
      obtain ⟨l', ls, rfl, _⟩ := start.exists_cons hls
      have shorter : (l :: rest).length < (l' :: ls ++ l :: rest).length := by
        simp only [List.length_append, List.length_cons]
        omega
      exact .last read shorter (Token.isSymbol_of_isAmong hl apart)
    case neg =>
      rw [List.map_cons, commaTokens_cons (by simpa using last)] at hls
      obtain ⟨here, behind, rfl, hhere, hbehind⟩ := List.map_eq_append_iff.mp hls
      obtain ⟨c, behind, rfl, hc, hbehind⟩ := List.map_eq_cons_iff.mp hbehind
      have stop : Stops stops (c :: (behind ++ after)) :=
        (stops_comma hc _).mono (by simpa using comma)
      have read := first m depth here _ hhere (by simp at hm; omega) hk stop
      have more := hi last others starts hbehind (by simp at hm; omega)
      have begin : Begins _ (commaTokens (xs.map (·.tokens))) :=
        .commas (by simpa using last) (by simpa using starts)
      obtain ⟨l, behind, rfl, hl⟩ := begin.exists_cons hbehind
      obtain ⟨l', here, rfl, _⟩ := start.exists_cons hhere
      have shorter : (behind ++ after).length + 2 <
          (l' :: here ++ c :: l :: (behind ++ after)).length := by
        simp only [List.length_append, List.length_cons]
        omega
      have := Listed.more read shorter hc hl more
      simpa using this

theorem yields_entries (closers : List String) {starts : Token → Prop} (hxs : xs ≠ [])
    (each : ∀ x ∈ xs, ReadsBefore p stops x.tree x.tokens k)
    (begins : ∀ x ∈ xs, Begins starts x.tokens) (comma : "," ∈ stops) (closing : closers ⊆ stops)
    (apart : "," ∉ closers) :
    ReadsBefore (fun r => commaSeparated (p r)) closers (xs.map (·.tree))
      (commaTokens (xs.map (·.tokens))) k :=
  fun _ _ _ _ hls hm hk hafter => yields_commaSeparated <|
    listed closers _ hxs each begins comma closing apart hls hm hk hafter

end Lists

section Clauses

-- The tokens of a clause behind its words, if there is one.
def clauseTokens (words : List String) : Option (List Token) → List Token
  | none => []
  | some ts => words.map .ofWord ++ ts

-- The text of a clause behind its words, if there is one.
def clauseText (words : String) : Option String → String
  | none => ""
  | some text => " " ++ words ++ " " ++ text

-- The tokens of a list, if it has any items.
def listTokens? : List (Entry α) → Option (List Token)
  | [] => none
  | xs => some (commaTokens (xs.map (·.tokens)))

-- The text of a list, if it has any items.
def listText? : List (Entry α) → Option String
  | [] => none
  | xs => some (commas (xs.map (·.text)))

namespace Smooth

theorem words (words : List String) (hts : Smooth ts) : Smooth (words.map .ofWord ++ ts) := by
  induction words
  case nil => exact hts
  case cons hi => exact .cons nofun nofun hi

theorem clause {o : Option (List Token)} (words : List String) (each : ∀ ts ∈ o, Smooth ts) :
    Smooth (clauseTokens words o) := by
  cases o
  case none => exact .nil
  case some ts => exact (each ts rfl).words words

theorem list? (each : ∀ x ∈ xs, Smooth x.tokens) : ∀ ts ∈ listTokens? xs, Smooth ts := by
  cases xs
  case nil => nofun
  case cons =>
    rintro _ ⟨⟩
    exact .commas (by simpa using each)

theorem listClause (words : List String) (each : ∀ x ∈ xs, Smooth x.tokens) :
    Smooth (clauseTokens words (listTokens? xs)) := .clause words (.list? each)

end Smooth

theorem yields_keywords {words : List String}
    (known : words.map (fun k => (Token.ofWord k).keyword) = words)
    (hls : ls.map (·.token) = words.map .ofWord) :
    Yields (keywords? words) depth (ls ++ rest) true rest := by
  have length : ls.length = words.length := by simpa using congrArg List.length hls
  have taken : ((ls ++ rest).take words.length).map (·.token.keyword) = words := by
    have keywords := congrArg (List.map Token.keyword) hls
    rw [List.map_map, List.map_map] at keywords
    rw [← length, List.take_left]
    exact keywords.trans known
  refine yields_get.bind ?_
  simp only [taken, beq_self_eq_true, if_true]
  unfold Yields
  show Except.ok _ = _
  simp [← length]

theorem Stops.no_peekAny (h : Stops stops ls) (hk : ∀ k ∈ ks, k ∉ "" :: stops) :
    Yields (peekAny ks) depth ls false ls := by
  obtain ⟨l, rest, rfl, hl⟩ := h
  have none : ks.contains l.token.keyword = false := by
    rw [Bool.eq_false_iff]
    intro found
    have other := Token.isKeyword_of_isAmong hl (hk _ (List.contains_iff_mem.mp found))
    simp [Token.isKeyword] at other
  exact none ▸ rfl

-- What may stand behind the tokens may also stand in front of them, or their first word does.
theorem Stops.or_word (hafter : Stops stops after)
    (hls : ls = [] ∨ ∃ l more, ls = l :: more ∧ l.token = .ofWord word)
    (known : (Token.ofWord word).keyword = word) (letters : word.toList.all Text.isAsciiLetter) :
    Stops (word :: stops) (ls ++ after) := by
  obtain rfl | ⟨l, more, rfl, hl⟩ := hls
  case inl => exact hafter.mono (List.subset_cons_self _ _)
  case inr =>
    refine ⟨l, _, rfl, ?_⟩
    have here : (word :: stops).contains (Token.ofWord word).keyword &&
        (Token.ofWord word).keyword.toList.all Text.isAsciiLetter := by simp [known, letters]
    rw [hl]
    exact here

theorem Stops.clause {words : List String} {o : Option (List Token)} (hafter : Stops stops after)
    (hls : ls.map (·.token) = clauseTokens (word :: words) o)
    (known : (Token.ofWord word).keyword = word) (letters : word.toList.all Text.isAsciiLetter) :
    Stops (word :: stops) (ls ++ after) := by
  refine hafter.or_word ?_ known letters
  cases o
  case none => exact .inl (List.map_eq_nil_iff.mp hls)
  case some ts =>
    obtain ⟨l, more, rfl, hl, _⟩ := List.map_eq_cons_iff.mp hls
    exact .inr ⟨l, more, rfl, hl⟩

-- A clause behind one word.
theorem yields_after (word : String) {o : Option (Entry α)}
    (each : ∀ x ∈ o, ReadsBefore p stops x.tree x.tokens k)
    (hts : ∀ x ∈ o, x.tokens ≠ []) (known : (Token.ofWord word).keyword = word)
    (hls : ls.map (·.token) = clauseTokens [word] (o.map (·.tokens))) (hm : 4 * ls.length + 5 ≤ m)
    (hk : k ≤ depth) (hafter : Stops stops after) (apart : word ∉ "" :: stops) :
    Yields (after? word (p (rules m))) depth (ls ++ after) (o.map (·.tree)) after := by
  cases o
  case none =>
    obtain rfl := List.map_eq_nil_iff.mp hls
    exact hafter.no_after apart
  case some x =>
    obtain ⟨l, ls, rfl, hl, hls⟩ := List.map_eq_cons_iff.mp hls
    have read := each x rfl m depth ls after hls (by simp at hm; omega) hk hafter
    obtain _ | ⟨l', ls⟩ := ls
    case nil => exact absurd hls.symm (hts x rfl)
    case cons =>
      have here : l.token.isKeyword word := by
        rw [hl, Token.isKeyword, known]
        exact beq_self_eq_true _
      exact (yields_keyword here (fun e => apart (e ▸ .head _))).bind (read.bind .pure)

-- A list behind some words. Without the words there is `nothing`.
theorem yields_listClause (word : String) (words : List String) (nothing : β)
    {q : List α → Parser β} {b : β}
    (each : ∀ x ∈ xs, ReadsBefore p stops x.tree x.tokens k) (hts : ∀ x ∈ xs, x.tokens ≠ [])
    (comma : "," ∈ stops) (closing : closers ⊆ stops) (apart : "," ∉ closers)
    (known : (word :: words).map (fun k => (Token.ofWord k).keyword) = word :: words)
    (hls : ls.map (·.token) = clauseTokens (word :: words) (listTokens? xs))
    (hm : 4 * ls.length + 5 ≤ m) (hk : k ≤ depth) (hafter : Stops closers after)
    (apart' : word ∉ "" :: closers) (none : xs = [] → b = nothing)
    (some : xs ≠ [] → Yields (q (xs.map (·.tree))) depth after b after) :
    Yields (do
      if ← keywords? (word :: words) then q (← commaSeparated (p (rules m)))
      else return nothing) depth (ls ++ after) b after := by
  cases xs
  case nil =>
    obtain rfl := List.map_eq_nil_iff.mp hls
    rw [none rfl]
    exact (hafter.no_keywords apart').bind .pure
  case cons x xs =>
    obtain ⟨front, items, rfl, hfront, hitems⟩ := List.map_eq_append_iff.mp hls
    have words : front.length = words.length + 1 := by simpa using congrArg List.length hfront
    have begins (y : Entry α) (hy : y ∈ x :: xs) : Begins (fun _ => True) y.tokens := by
      obtain ⟨t, ts, e⟩ := List.exists_cons_of_ne_nil (hts y hy)
      exact ⟨t, ts, e, trivial⟩
    have read := yields_entries closers (by simp) each begins comma closing apart m depth items after
      hitems (by simp at hm; omega) hk hafter
    rw [List.append_assoc]
    exact (yields_keywords known hfront).bind (read.bind (some (by simp)))

end Clauses

end SqlLens.Sql
