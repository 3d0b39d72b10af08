import SqlLens.Proofs.Sql.Item
import SqlLens.Proofs.Sql.Test

namespace SqlLens.Sql

open SqlLens.Sql.Parser

section Names

variable {depth : Nat} {l l' : Lexeme} {ls : List Lexeme} {r : Rules} {k : String} {id : Ident}

-- Words that begin a type.
def typeWords : List String :=
  DataType.simple.map (·.1) ++ DataType.integers ++ DataType.sized ++ DataType.decimals.map (·.1) ++
    ["REAL", "DOUBLE", "VARCHAR", "NVARCHAR", "VARBINARY", "CHARACTER", "CHAR", "BINARY", "BIT",
      "DATETIME64", "TIMESTAMP", "TIME", "TIMESTAMPTZ", "TIMETZ", "TIMESTAMP_NTZ", "INTERVAL",
      "FIXEDSTRING", "ENUM", "SET", "ARRAY", "STRUCT", "NULLABLE", "LOWCARDINALITY", "MAP", "TUPLE",
      "ANY", "TABLE", "SIGNED", "UNSIGNED", "TSVECTOR", "TSQUERY"]

-- Words behind which a parenthesis opens something else than the arguments of a call.
def specialWords : List String :=
  ["TRUE", "FALSE", "NULL", "CURRENT_CATALOG", "CURRENT_USER", "SESSION_USER", "USER",
    "CURRENT_TIMESTAMP", "CURRENT_TIME", "CURRENT_DATE", "LOCALTIME", "LOCALTIMESTAMP", "CASE",
    "CONVERT", "TRY_CONVERT", "CAST", "TRY_CAST", "SAFE_CAST", "EXISTS", "EXTRACT", "CEIL", "FLOOR",
    "POSITION", "SUBSTR", "SUBSTRING", "OVERLAY", "TRIM", "INTERVAL", "ARRAY", "NOT", "MATCH",
    "STRUCT", "PRIOR", "MAP"]

theorem keywordType?_none (hk : k ∉ typeWords) :
    Yields (keywordType? r k) depth ls none ls := by
  simp only [typeWords, List.mem_append, not_or] at hk
  obtain ⟨⟨⟨⟨simple, integers⟩, sized⟩, decimals⟩, words⟩ := hk
  have unlisted {β : Type} {table : List (String × β)} (h : k ∉ table.map (·.1)) :
      table.lookup k = none := by
    rw [List.lookup_eq_none_iff]
    intro p hp
    rw [bne_iff_ne]
    rintro rfl
    exact h (List.mem_map_of_mem hp)
  unfold keywordType?
  refine yields_dialect.bind ?_
  simp only [unlisted simple, unlisted decimals, List.contains_eq_mem, integers, sized,
    decide_false, Bool.false_eq_true, if_false]
  split
  case h_32 =>
    have plane : Dialect.generic.hasGeometry = false := rfl
    simp only [plane, Bool.false_and, Bool.false_eq_true, if_false]
    exact .pure
  all_goals exact absurd (by decide) words

theorem keywordForm?_none (hk : k ∉ specialWords) :
    Yields (keywordForm? r id k) depth ls none ls := by
  unfold keywordForm?
  refine yields_dialect.bind ?_
  split
  case h_35 =>
    have plane : Dialect.generic.hasGeometry = false := rfl
    simp only [plane, Bool.false_and, Bool.false_eq_true, if_false]
    exact .pure
  all_goals exact absurd (by decide) hk

-- The word is the name of a function that is called like any other.
def Word.isCallable (w : Word) : Bool :=
  w.token.opens && !(typeWords ++ specialWords).contains w.token.keyword

end Names

-- A window of a call with its text.
structure Window where
  partition : List (Entry Expr) := []
  order     : List (Entry OrderItem) := []

-- A call of a function with its text.
structure Invocation where
  name     : Word
  distinct : Bool := false
  args     : List (Entry Item) := []
  order    : List (Entry OrderItem) := []
  within   : List (Entry OrderItem) := []
  filter   : Option (Entry Expr) := none
  across   : Option Window := none

namespace Window

def pieces (w : Window) : List Piece :=
  Phrase.words " OVER (" ++
    clauses [[], Phrase.list "PARTITION BY " Phrase.exprs (w.partition.map (·.tree)),
      Phrase.list "ORDER BY " Phrase.orderItems (w.order.map (·.tree)), []] ++ Phrase.words ")"

def text (w : Window) : String :=
  " OVER (" ++ " ".intercalate (Render.clause "PARTITION BY" (listText? w.partition) ++
    Render.clause "ORDER BY" (listText? w.order)) ++ ")"

def tokens (w : Window) : List Token :=
  .ofWord "OVER" :: parenTokens (clauseTokens ["PARTITION", "BY"] (listTokens? w.partition) ++
    clauseTokens ["ORDER", "BY"] (listTokens? w.order))

end Window

namespace Invocation

def arguments (c : Invocation) : ArgumentList where
  distinct := if c.distinct then some true else none
  args     := c.args.map (·.tree)
  order    := c.order.map (·.tree)

def tree (c : Invocation) : Function where
  name   := [c.name.ident]
  args   := .list c.arguments
  within := c.within.map (·.tree)
  filter := c.filter.map (·.tree)
  tail   := (c.across.map Window.pieces).getD []

def argumentTokens (c : Invocation) : List Token :=
  (if c.distinct then [.ofWord "DISTINCT"] else []) ++
    (commaTokens (c.args.map (·.tokens)) ++ clauseTokens ["ORDER", "BY"] (listTokens? c.order))

def withinTokens (c : Invocation) : List Token :=
  if c.within.isEmpty then []
  else .ofWord "WITHIN" :: .ofWord "GROUP" ::
    parenTokens (clauseTokens ["ORDER", "BY"] (listTokens? c.within))

def filterTokens (c : Invocation) : List Token :=
  match c.filter with
  | none => []
  | some x => .ofWord "FILTER" :: parenTokens (.ofWord "WHERE" :: x.tokens)

-- The tokens behind the name of the function.
def behindTokens (c : Invocation) : List Token :=
  parenTokens c.argumentTokens ++ (c.withinTokens ++ (c.filterTokens ++
    (c.across.map Window.tokens).getD []))

def tokens (c : Invocation) : List Token := c.name.token :: c.behindTokens

def text (c : Invocation) : String :=
  c.name.text ++ "(" ++ (if c.distinct then "DISTINCT " else "") ++ commas (c.args.map (·.text)) ++
    clauseText "ORDER BY" (listText? c.order) ++ ")" ++
    (if c.within.isEmpty then ""
      else " WITHIN GROUP (ORDER BY " ++ commas (c.within.map (·.text)) ++ ")") ++
    (match c.filter with
      | none => ""
      | some x => " FILTER (WHERE " ++ x.text ++ ")") ++
    (c.across.map Window.text).getD ""

end Invocation

variable {depth m k g h : Nat} {l l' : Lexeme} {ls rest after : List Lexeme} {r : Rules}
  {t : Token} {ts ts' : List Token} {stops ks : List String} {k' k'' : String} {c : Invocation}

section Words

theorem no_keywords_first (hl : l.token.isKeyword k' = false) :
    Yields (keywords? (k' :: ks)) depth (l :: ls) false (l :: ls) := by
  have first : (l.token.keyword == k') = false := hl
  refine yields_get.bind ?_
  simp only [List.length_cons, List.take_succ_cons, List.map_cons, List.cons_beq_cons, first,
    Bool.false_and, Bool.false_eq_true, if_false]
  exact .pure

theorem no_keywords_second (hl : l'.token.isKeyword k'' = false) :
    Yields (keywords? (k' :: k'' :: ks)) depth (l :: l' :: ls) false (l :: l' :: ls) := by
  have second : (l'.token.keyword == k'') = false := hl
  refine yields_get.bind ?_
  simp only [List.length_cons, List.take_succ_cons, List.map_cons, List.cons_beq_cons, second,
    Bool.false_and, Bool.and_false, Bool.false_eq_true, if_false]
  exact .pure

-- Whether the words in front of the arguments of a call begin so.
def leadsArguments : List Token → Bool
  | [] => true
  | t :: ts =>
    ["ALL", "DISTINCT", "ABSENT", "RETURNING"].contains t.keyword || t.isSymbol ")" ||
      ts.head?.any (·.isKeyword "ON")

theorem no_jsonNulls (hl : l.token.isKeyword "ABSENT" = false)
    (hl' : l.token.isKeyword "NULL" = false ∨ l'.token.isKeyword "ON" = false) :
    Yields jsonNulls depth (l :: l' :: ls) [] (l :: l' :: ls) := by
  have null : Yields (keywords? ["NULL", "ON", "NULL"]) depth (l :: l' :: ls) false
      (l :: l' :: ls) := by
    cases hl'
    case inl h => exact no_keywords_first h
    case inr h => exact no_keywords_second h
  exact null.bind ((no_keywords_first hl).bind .pure)

theorem no_jsonReturning (hl : l.token.isKeyword "RETURNING" = false) :
    Yields (jsonReturning r) depth (l :: ls) [] (l :: ls) := (yields_no_keyword hl).bind .pure

end Words

section Arguments

-- What the arguments of a call are read as, from behind the opening parenthesis.
theorem yields_no_arguments (hl : l.token = .symbol ")") :
    Yields (arguments r) depth (l :: l' :: rest) {} (l' :: rest) := by
  obtain ⟨t, p, g⟩ := l
  cases hl
  exact yields_dialect.bind <| (no_jsonNulls (l := ⟨.symbol ")", p, g⟩) rfl (.inl rfl)).bind <|
    (no_jsonReturning rfl).bind <| (yields_symbol rfl).bind .pure

-- The clauses behind the arguments of a call, up to the closing parenthesis.
theorem yields_order (depth : Nat) {xs : List (Entry OrderItem)}
    (each : ∀ x ∈ xs, ReadsBefore orderItem orderStops x.tree x.tokens k)
    (begins : ∀ x ∈ xs, x.tokens ≠ [])
    (hls : ls.map (·.token) = clauseTokens ["ORDER", "BY"] (listTokens? xs))
    (hm : 4 * ls.length + 5 ≤ m) (hk : k ≤ depth) (hafter : Stops stops after)
    (sub : stops ⊆ orderStops) (comma : "," ∉ stops) (apart : "ORDER" ∉ "" :: stops) :
    Yields (do if ← keywords? ["ORDER", "BY"] then orderItems (rules m) else return []) depth
      (ls ++ after) (xs.map (·.tree)) after := by
  have read := yields_listClause "ORDER" ["BY"] [] (p := orderItem) (q := pure) each
    begins (by decide) sub comma rfl hls hm hk hafter apart (by rintro rfl; rfl) fun _ => .pure
  simp only [bind_pure] at read
  exact read

theorem stops_order {xs : List (Entry OrderItem)}
    (hls : ls.map (·.token) = clauseTokens ["ORDER", "BY"] (listTokens? xs))
    (hafter : Stops stops after) : Stops ("ORDER" :: stops) (ls ++ after) :=
  hafter.clause hls rfl rfl

-- What stands between the words in front of the arguments of a call and its end.
def argumentsTail (r : Rules) (distinct : Option Bool) : Parser ArgumentList := do
  let args ← commaSeparated (argument r)
  let nulls ← nullTreatment
  let order ← (do if ← keywords? ["ORDER", "BY"] then orderItems r else return [])
  let limit ← after? "LIMIT" (r.expr 0)
  let having ← (after? "HAVING" do
    let k ← expectOneOf ["MIN", "MAX"]
    return Phrase.words ("HAVING " ++ k ++ " ") ++ Phrase.expr (← r.expr 0))
  let separator ← after? "SEPARATOR" literal
  let overflow ← overflowClause r
  let jsonNulls ← jsonNulls
  let jsonReturning ← jsonReturning r
  expectSymbol ")"
  return {
    distinct := distinct
    args := args
    before := clauses [[], Phrase.option "" Phrase.words nulls]
    order := order
    after := clauses [Phrase.option "LIMIT " Phrase.expr limit, having.getD [],
      Phrase.option "SEPARATOR " Phrase.literal separator, overflow, jsonNulls, jsonReturning] }

theorem yields_arguments {distinct : Bool} {a : ArgumentList}
    (leads : leadsArguments (ls.map (·.token)) = false) (two : 2 ≤ ls.length)
    (tail : Yields (argumentsTail r (if distinct then some true else none)) depth ls a rest) :
    if distinct then ∀ l, l.token = .ofWord "DISTINCT" → Yields (arguments r) depth (l :: ls) a rest
    else Yields (arguments r) depth ls a rest := by
  obtain _ | ⟨x, _ | ⟨y, more⟩⟩ := ls
  case nil => simp at two
  case cons.nil => simp at two
  simp only [List.map_cons, leadsArguments, List.head?_cons, Option.any_some, Bool.or_eq_false_iff,
    List.contains_eq_mem, decide_eq_false_iff_not, List.mem_cons, not_or] at leads
  obtain ⟨⟨⟨all, distinct', absent, returning, -⟩, paren⟩, on⟩ := leads
  have no {k : String} (h : x.token.keyword ≠ k) : x.token.isKeyword k = false :=
    beq_eq_false_iff_ne.mpr h
  have nulls : Yields jsonNulls depth (x :: y :: more) [] (x :: y :: more) :=
    no_jsonNulls (no absent) (.inr on)
  have returned : Yields (jsonReturning r) depth (x :: y :: more) [] (x :: y :: more) :=
    no_jsonReturning (no returning)
  cases distinct
  case false =>
    refine yields_dialect.bind (nulls.bind (returned.bind ((yields_no_symbol paren).bind ?_)))
    refine Yields.bind (p := position?) rfl ((yields_no_keyword (no all)).bind ?_)
    exact (yields_no_keyword (no distinct')).bind tail
  case true =>
    intro l hl
    obtain ⟨t, p, g⟩ := l
    cases hl
    refine yields_dialect.bind ((no_jsonNulls rfl (.inl rfl)).bind ((no_jsonReturning rfl).bind
      ((yields_no_symbol rfl).bind ?_)))
    refine Yields.bind (p := position?) rfl ((yields_no_keyword rfl).bind ?_)
    exact (yields_keyword rfl (by decide)).bind tail

structure Window.Reads (w : Window) (k : Nat) : Prop where
  partition : ∀ x ∈ w.partition,
    ReadsBefore (fun r => r.expr 0) [",", ")", "ORDER"] x.tree x.tokens k
  order : ∀ x ∈ w.order, ReadsBefore orderItem orderStops x.tree x.tokens k
  partitions : ∀ x ∈ w.partition, x.tokens ≠ []
  orders : ∀ x ∈ w.order, x.tokens ≠ []

-- The entries of a call read back, and nothing in front of the arguments reads as something else.
structure Invocation.Reads (c : Invocation) (k : Nat) : Prop where
  args : ∀ x ∈ c.args, ReadsBefore argument argumentStops x.tree x.tokens k
  order : ∀ x ∈ c.order, ReadsBefore orderItem orderStops x.tree x.tokens k
  within : ∀ x ∈ c.within, ReadsBefore orderItem orderStops x.tree x.tokens k
  filter : ∀ x ∈ c.filter, ReadsBefore (fun r => r.expr 0) [")"] x.tree x.tokens k
  across : ∀ w ∈ c.across, w.Reads k
  orders : ∀ x ∈ c.order ++ c.within, x.tokens ≠ []
  filters : ∀ x ∈ c.filter, x.tokens ≠ []
  leads : ∀ x ∈ c.args, leadsArguments x.tokens = false
  bare : c.args = [] → c.distinct = false ∧ c.order = []

theorem exists_begins (h : ts ≠ []) : Begins (fun _ => True) ts := by
  obtain ⟨t, ts, rfl⟩ := List.exists_cons_of_ne_nil h
  exact ⟨t, ts, rfl, trivial⟩

theorem no_windowName (hafter : Stops ["PARTITION", "ORDER", ")"] after) :
    Yields (do
      match ← token with
      | .word _ k _ =>
        if ["PARTITION", "ORDER", "ROWS", "RANGE", "GROUPS"].contains k then return []
        else return Phrase.ident (← ident)
      | _ => return []) depth after [] after := by
  obtain ⟨l, rest, rfl, hl⟩ := hafter
  refine yields_token.bind ?_
  unfold Token.isAmong at hl
  split at hl
  case h_1 e | h_2 e =>
    rw [e]
    exact .pure
  case h_3 text k e =>
    rw [Bool.and_eq_true, List.contains_iff_mem] at hl
    obtain ⟨hl, letters⟩ := hl
    rw [e]
    fin_cases hl
    case «2» => cases letters
    all_goals exact .pure
  case h_4 => cases hl

theorem Window.Reads.yields_overClause {w : Window} (hw : w.Reads k)
    (hls : ls.map (·.token) = w.tokens) (hm : 4 * ls.length + 1 ≤ m) (hk : k ≤ depth) :
    Yields (overClause (rules m)) depth (ls ++ l :: rest) w.pieces (l :: rest) := by
  obtain ⟨p, gap, ls, rfl, hls'⟩ := exists_lexemes hls
  obtain ⟨first, inside, last, rfl, hfirst, hinside, hlast⟩ := exists_parens hls'
  obtain ⟨partition, order, rfl, hpartition, horder⟩ := List.map_eq_append_iff.mp hinside
  have closing : Stops [")"] (last :: l :: rest) := stops_closing hlast _
  have behind : Stops ["ORDER", ")"] (order ++ last :: l :: rest) := stops_order horder closing
  have ahead : Stops ["PARTITION", "ORDER", ")"] (partition ++ (order ++ last :: l :: rest)) :=
    behind.clause hpartition rfl rfl
  have readPartition : Yields (do
      if ← keywords? ["PARTITION", "BY"] then
        return Phrase.words "PARTITION BY " ++ Phrase.exprs (← commaSeparated ((rules m).expr 0))
      else return []) depth (partition ++ (order ++ last :: l :: rest))
      (Phrase.list "PARTITION BY " Phrase.exprs (w.partition.map (·.tree)))
      (order ++ last :: l :: rest) := by
    refine yields_listClause "PARTITION" ["BY"] [] (p := fun r => r.expr 0)
      (q := fun es => pure (Phrase.words "PARTITION BY " ++ Phrase.exprs es)) hw.partition
      hw.partitions (by decide) (by decide) (by decide) rfl hpartition (by simp at hm; omega) hk
      behind (by decide) (fun e => by rw [e]; rfl) fun some => ?_
    obtain ⟨x, xs, e⟩ := List.exists_cons_of_ne_nil some
    rw [e]
    exact .pure
  have readOrder : Yields (do
      if ← keywords? ["ORDER", "BY"] then
        return Phrase.words "ORDER BY " ++ Phrase.orderItems (← orderItems (rules m))
      else return []) depth (order ++ last :: l :: rest)
      (Phrase.list "ORDER BY " Phrase.orderItems (w.order.map (·.tree))) (last :: l :: rest) := by
    refine yields_listClause "ORDER" ["BY"] [] (p := orderItem)
      (q := fun is => pure (Phrase.words "ORDER BY " ++ Phrase.orderItems is)) hw.order
      hw.orders (by decide) (by decide) (by decide) rfl horder (by simp at hm; omega) hk
      closing (by decide) (fun e => by rw [e]; rfl) fun some => ?_
    obtain ⟨x, xs, e⟩ := List.exists_cons_of_ne_nil some
    rw [e]
    exact .pure
  have inner : Yields (window (rules m)) depth (partition ++ (order ++ last :: l :: rest))
      (clauses [[], Phrase.list "PARTITION BY " Phrase.exprs (w.partition.map (·.tree)),
        Phrase.list "ORDER BY " Phrase.orderItems (w.order.map (·.tree)), []]) (l :: rest) := by
    refine (no_windowName ahead).bind (readPartition.bind (readOrder.bind ?_))
    exact Yields.bind ((yields_symbol hlast).bind .pure) .pure
  have opened : Yields (symbol? "(") depth
      (first :: (partition ++ (order ++ last :: l :: rest))) true
      (partition ++ (order ++ last :: l :: rest)) := by
    obtain ⟨x, more, e, -⟩ := ahead
    rw [e]
    exact yields_symbol hfirst
  have windowed : Yields (do
      if ← symbol? "(" then
        return Phrase.words " OVER (" ++ (← window (rules m)) ++ Phrase.words ")"
      else return Phrase.words " OVER " ++ Phrase.ident (← ident)) depth
      (first :: (partition ++ (order ++ last :: l :: rest))) w.pieces (l :: rest) :=
    opened.bind (inner.bind .pure)
  have taken : Yields (keyword? "OVER") depth
      (⟨.ofWord "OVER", p, gap⟩ :: first :: (partition ++ (order ++ last :: l :: rest))) true
      (first :: (partition ++ (order ++ last :: l :: rest))) := rfl
  simp only [List.cons_append, List.append_assoc, List.nil_append]
  exact taken.bind windowed

theorem leadsArguments_append (h : leadsArguments ts = false)
    (h' : ts'.head?.any (·.isKeyword "ON") = false) : leadsArguments (ts ++ ts') = false := by
  obtain _ | ⟨t, _ | ⟨t', ts⟩⟩ := ts
  case nil => cases h
  case cons.nil => simpa [leadsArguments, h'] using h
  case cons.cons => exact h

theorem leadsArguments_commas {tss : List (List Token)} (hts : tss ≠ [])
    (each : ∀ ts ∈ tss, leadsArguments ts = false) : leadsArguments (commaTokens tss) = false := by
  cases tss
  case nil => contradiction
  case cons ts tss =>
    have first := each ts (.head _)
    by_cases last : tss = []
    case pos =>
      subst last
      simpa [commaTokens, List.intercalate] using first
    case neg =>
      rw [commaTokens_cons last]
      exact leadsArguments_append first rfl

theorem begins_of_leadsArguments (h : leadsArguments ts = false) : Begins (fun _ => True) ts := by
  cases ts
  case nil => cases h
  case cons t ts => exact ⟨t, ts, rfl, trivial⟩

namespace Invocation

theorem Reads.yields_arguments (l' : Lexeme) (rest : List Lexeme) (hc : c.Reads k)
    (some : c.args ≠ []) (hls : ls.map (·.token) = c.argumentTokens) (hl : l.token = .symbol ")")
    (hm : 4 * ls.length + 9 ≤ m) (hk : k ≤ depth) :
    Yields (Parser.arguments (rules m)) depth (ls ++ l :: l' :: rest) c.arguments (l' :: rest) := by
  obtain ⟨words, ls, rfl, hwords, hls⟩ := List.map_eq_append_iff.mp hls
  obtain ⟨args, order, rfl, hargs, horder⟩ := List.map_eq_append_iff.mp hls
  have closing : Stops [")"] (l :: l' :: rest) := stops_closing hl _
  have behind : Stops ["ORDER", ")"] (order ++ l :: l' :: rest) := stops_order horder closing
  have readArgs := yields_entries ["ORDER", ")"] (p := argument) some hc.args
    (fun x hx => begins_of_leadsArguments (hc.leads x hx)) (by decide) (by decide) (by decide) m
    depth args _ hargs (by simp at hm; omega) hk behind
  have readOrder := yields_order depth (m := m) hc.order
    (fun x hx => hc.orders x (List.mem_append_left _ hx)) horder (by simp at hm; omega) hk closing
    (by decide) (by decide) (by decide)
  have lead : leadsArguments ((args ++ (order ++ l :: l' :: rest)).map (·.token)) = false := by
    rw [List.map_append, hargs]
    refine leadsArguments_append (leadsArguments_commas (by simpa using some) ?_) ?_
    · simpa using hc.leads
    · obtain ⟨first, more, e, hfirst⟩ := behind
      rw [e]
      exact Token.isKeyword_of_isAmong hfirst (by decide)
  have nulls : Yields nullTreatment depth (order ++ l :: l' :: rest) none
      (order ++ l :: l' :: rest) := (behind.no_oneOf (by decide)).bind .pure
  have tail : Yields (argumentsTail (rules m) (if c.distinct then .some true else none)) depth
      (args ++ (order ++ l :: l' :: rest)) c.arguments (l' :: rest) := by
    refine readArgs.bind (.bind nulls (readOrder.bind ?_))
    refine (closing.no_after (by decide)).bind (.bind (closing.no_after (by decide)) ?_)
    refine .bind (closing.no_after (by decide)) ?_
    refine .bind ((closing.no_keywords (by decide)).bind .pure) ?_
    have unnull : Yields jsonNulls depth (l :: l' :: rest) [] (l :: l' :: rest) :=
      no_jsonNulls (by rw [hl]; rfl) (.inl (by rw [hl]; rfl))
    refine unnull.bind (.bind (no_jsonReturning (by rw [hl]; rfl)) ?_)
    exact (yields_expectSymbol hl).bind .pure
  have read := yields_arguments lead (by simp; omega) tail
  rw [List.append_assoc, List.append_assoc]
  cases distinct : c.distinct
  case false =>
    rw [distinct] at read hwords
    obtain rfl := List.map_eq_nil_iff.mp hwords
    exact read
  case true =>
    rw [distinct] at read hwords
    obtain ⟨d, rfl, hd⟩ := List.map_eq_singleton_iff.mp hwords
    exact read d hd

theorem Reads.parenthesized_arguments (rest : List Lexeme) (hc : c.Reads k)
    (hls : ls.map (·.token) = parenTokens c.argumentTokens) (hm : 4 * ls.length + 1 ≤ m)
    (hk : k ≤ depth) :
    ∃ mid, Yields (expectSymbol "(") depth (ls ++ l :: rest) () mid ∧
      Yields (Parser.arguments (rules m)) depth mid c.arguments (l :: rest) := by
  obtain ⟨first, inside, last, rfl, hfirst, hinside, hlast⟩ := exists_parens hls
  by_cases some : c.args = []
  case pos =>
    obtain ⟨distinct, order⟩ := hc.bare some
    have none : c.argumentTokens = [] := by
      simp [argumentTokens, distinct, order, some, commaTokens, clauseTokens, listTokens?]
    have empty : c.arguments = {} := by simp [arguments, distinct, order, some]
    rw [none] at hinside
    obtain rfl := List.map_eq_nil_iff.mp hinside
    rw [empty]
    exact ⟨_, yields_expectSymbol hfirst, yields_no_arguments hlast⟩
  case neg =>
    have read := hc.yields_arguments l rest (m := m) some hinside hlast
      (by simp at hm; omega) hk
    have opened : Yields (expectSymbol "(") depth (first :: (inside ++ last :: l :: rest)) ()
        (inside ++ last :: l :: rest) := by
      cases inside <;> exact yields_expectSymbol hfirst
    exact ⟨_, by simpa using opened, read⟩

theorem Reads.yields_within (hc : c.Reads k) (hls : ls.map (·.token) = c.withinTokens)
    (hm : 4 * ls.length + 1 ≤ m) (hk : k ≤ depth)
    (hafter : Stops ("FILTER" :: "OVER" :: followStops) after) :
    Yields (do
      if ← keywords? ["WITHIN", "GROUP"] then
        parenthesized do
          expectKeywords ["ORDER", "BY"]
          orderItems (rules m)
      else return []) depth (ls ++ after) (c.within.map (·.tree)) after := by
  unfold withinTokens at hls
  by_cases none : c.within = []
  case pos =>
    rw [none] at hls ⊢
    obtain rfl := List.map_eq_nil_iff.mp hls
    exact (hafter.no_keywords (by decide)).bind .pure
  case neg =>
    simp only [List.isEmpty_iff, none, if_false] at hls
    obtain ⟨p, gap, ls, rfl, hls'⟩ := exists_lexemes hls
    obtain ⟨p', gap', ls, rfl, hls''⟩ := exists_lexemes hls'
    obtain ⟨first, inside, last, rfl, hfirst, hinside, hlast⟩ := exists_parens hls''
    obtain ⟨l, rest, rfl, -⟩ := hafter
    obtain ⟨x, xs, e⟩ := List.exists_cons_of_ne_nil none
    rw [e] at hinside
    obtain ⟨p₁, gap₁, inside, rfl, hinside'⟩ := exists_lexemes hinside
    obtain ⟨p₂, gap₂, inside, rfl, hitems⟩ := exists_lexemes hinside'
    have some (y : Entry OrderItem) (hy : y ∈ c.within) : y.tokens ≠ [] :=
      hc.orders y (List.mem_append_right _ hy)
    have items := yields_entries [")"] (p := orderItem) none hc.within
      (fun y hy => exists_begins (some y hy)) (by decide) (by decide) (by decide) m depth inside
      (last :: l :: rest) (by rw [e]; exact hitems) (by simp at hm; omega) hk (stops_closing hlast _)
    obtain ⟨t, ts, e', -⟩ : Begins (fun _ => True) (commaTokens ((x :: xs).map (·.tokens))) :=
      .commas (by simp) (by simpa [← e] using fun y hy => exists_begins (some y hy))
    rw [e'] at hitems
    obtain ⟨y, inside, rfl, -, -⟩ := List.map_eq_cons_iff.mp hitems
    have words : Yields (expectKeywords ["ORDER", "BY"]) depth
        (⟨.ofWord "ORDER", p₁, gap₁⟩ :: ⟨.ofWord "BY", p₂, gap₂⟩ :: y ::
          (inside ++ last :: l :: rest)) () (y :: (inside ++ last :: l :: rest)) := rfl
    have taken : Yields (keywords? ["WITHIN", "GROUP"]) depth
        (⟨.ofWord "WITHIN", p, gap⟩ :: ⟨.ofWord "GROUP", p', gap'⟩ :: first ::
          ⟨.ofWord "ORDER", p₁, gap₁⟩ :: ⟨.ofWord "BY", p₂, gap₂⟩ :: y ::
          (inside ++ last :: l :: rest)) true
        (first :: ⟨.ofWord "ORDER", p₁, gap₁⟩ :: ⟨.ofWord "BY", p₂, gap₂⟩ :: y ::
          (inside ++ last :: l :: rest)) := rfl
    have sorted : Yields (do
        expectKeywords ["ORDER", "BY"]
        orderItems (rules m)) depth
        (⟨.ofWord "ORDER", p₁, gap₁⟩ :: ⟨.ofWord "BY", p₂, gap₂⟩ :: y ::
          (inside ++ last :: l :: rest)) (c.within.map (·.tree)) (last :: l :: rest) :=
      words.bind items
    have enclosed := yields_parenthesized hfirst hlast sorted
    simp only [List.cons_append, List.append_assoc, List.nil_append]
    exact taken.bind enclosed

theorem Reads.yields_filter (hc : c.Reads k) (hls : ls.map (·.token) = c.filterTokens)
    (hm : 4 * ls.length + 1 ≤ m) (hk : k ≤ depth)
    (hafter : Stops ("OVER" :: followStops) after) :
    Yields (filterClause (rules m)) depth (ls ++ after) (c.filter.map (·.tree)) after := by
  unfold filterTokens at hls
  cases e : c.filter
  case none =>
    rw [e] at hls
    obtain rfl := List.map_eq_nil_iff.mp hls
    exact yields_dialect.bind ((hafter.no_keyword (by decide)).bind .pure)
  case some x =>
    rw [e] at hls
    obtain ⟨p, gap, ls, rfl, hls'⟩ := exists_lexemes hls
    obtain ⟨first, inside, last, rfl, hfirst, hinside, hlast⟩ := exists_parens hls'
    obtain ⟨p', gap', inside, rfl, hinside'⟩ := exists_lexemes hinside
    obtain ⟨l, rest, rfl, -⟩ := hafter
    have read := hc.filter x e m depth inside (last :: l :: rest) hinside' (by simp at hm; omega) hk
      (stops_closing hlast _)
    obtain ⟨y, inside, rfl⟩ := List.exists_cons_of_ne_nil
      (by rintro rfl; exact hc.filters x e hinside'.symm : inside ≠ [])
    have opened : Yields (symbol? "(") depth
        (first :: ⟨.ofWord "WHERE", p', gap'⟩ :: y :: (inside ++ last :: l :: rest)) true
        (⟨.ofWord "WHERE", p', gap'⟩ :: y :: (inside ++ last :: l :: rest)) := yields_symbol hfirst
    have condition : Yields (do
        if !(← keyword? "WHERE") then return none
        let e ← (rules m).expr 0
        expectSymbol ")"
        return some e) depth (⟨.ofWord "WHERE", p', gap'⟩ :: y :: (inside ++ last :: l :: rest))
        (some x.tree) (l :: rest) := by
      refine (yields_keyword rfl (by decide)).bind (read.bind ?_)
      exact (yields_expectSymbol hlast).bind .pure
    have taken : Yields (keyword? "FILTER") depth
        (⟨.ofWord "FILTER", p, gap⟩ :: first :: ⟨.ofWord "WHERE", p', gap'⟩ :: y ::
          (inside ++ last :: l :: rest)) true
        (first :: ⟨.ofWord "WHERE", p', gap'⟩ :: y :: (inside ++ last :: l :: rest)) := rfl
    simp only [List.cons_append, List.append_assoc, List.nil_append, Option.map_some]
    exact yields_dialect.bind (taken.bind (opened.bind condition))

-- What may stand behind the parts of a call: each part begins with a word of its own.
theorem stops_across (hls : ls.map (·.token) = (c.across.map Window.tokens).getD [])
    (hafter : Stops stops after) : Stops ("OVER" :: stops) (ls ++ after) := by
  refine hafter.or_word ?_ rfl rfl
  cases e : c.across
  case none => exact .inl (List.map_eq_nil_iff.mp (e ▸ hls))
  case some w =>
    rw [e] at hls
    obtain ⟨l, more, rfl, hl, -⟩ := List.map_eq_cons_iff.mp hls
    exact .inr ⟨l, more, rfl, hl⟩

theorem stops_filter (hls : ls.map (·.token) = c.filterTokens) (hafter : Stops stops after) :
    Stops ("FILTER" :: stops) (ls ++ after) := by
  refine hafter.or_word ?_ rfl rfl
  unfold filterTokens at hls
  cases e : c.filter
  case none =>
    rw [e] at hls
    exact .inl (List.map_eq_nil_iff.mp hls)
  case some x =>
    rw [e] at hls
    obtain ⟨l, more, rfl, hl, -⟩ := List.map_eq_cons_iff.mp hls
    exact .inr ⟨l, more, rfl, hl⟩

theorem stops_within (hls : ls.map (·.token) = c.withinTokens) (hafter : Stops stops after) :
    Stops ("WITHIN" :: stops) (ls ++ after) := by
  refine hafter.or_word ?_ rfl rfl
  unfold withinTokens at hls
  split at hls
  case isTrue => exact .inl (List.map_eq_nil_iff.mp hls)
  case isFalse =>
    obtain ⟨l, more, rfl, hl, -⟩ := List.map_eq_cons_iff.mp hls
    exact .inr ⟨l, more, rfl, hl⟩

theorem Reads.yields_across (hc : c.Reads k)
    (hls : ls.map (·.token) = (c.across.map Window.tokens).getD []) (hm : 4 * ls.length + 1 ≤ m)
    (hk : k ≤ depth) (hafter : Stops followStops after) :
    Yields (overClause (rules m)) depth (ls ++ after) ((c.across.map Window.pieces).getD [])
      after := by
  cases e : c.across
  case none =>
    rw [e] at hls
    obtain rfl := List.map_eq_nil_iff.mp hls
    exact (hafter.no_keyword (by decide)).bind .pure
  case some w =>
    obtain ⟨l, rest, rfl, -⟩ := hafter
    rw [e] at hls
    exact (hc.across w e).yields_overClause hls hm hk

-- What stands behind the first arguments of a call.
def afterArguments (r : Rules) (name : Name) (first : ArgumentList) : Parser Function := do
  let (params, a) ← (do
    if (Dialect.generic.isClickhouse || Dialect.generic.isGeneric) && (← peekSymbol "(") then
      skip
      return (first.pieces, ← Parser.arguments r)
    else return ([], first))
  let within ← (do
    if ← keywords? ["WITHIN", "GROUP"] then
      parenthesized do
        expectKeywords ["ORDER", "BY"]
        orderItems r
    else return [])
  let filter ← filterClause r
  let nulls ← (do if a.before.isEmpty then nullTreatment else return none)
  let windowed ← overClause r
  return {
    name := name
    params := params
    args := .list a
    within := within
    filter := filter
    tail := Phrase.option " " Phrase.words nulls ++ windowed }

theorem Reads.yields_afterArguments (depth : Nat) {within filter across : List Lexeme}
    (hc : c.Reads k) (hwithin : within.map (·.token) = c.withinTokens)
    (hfilter : filter.map (·.token) = c.filterTokens)
    (hacross : across.map (·.token) = (c.across.map Window.tokens).getD [])
    (hm : 4 * (within.length + (filter.length + across.length)) + 1 ≤ m) (hk : k ≤ depth)
    (hafter : Stops followStops after) :
    Yields (afterArguments (rules m) [c.name.ident] c.arguments) depth
      (within ++ (filter ++ (across ++ after))) c.tree after := by
  have acrossStops := stops_across hacross hafter
  have filterStops := stops_filter hfilter acrossStops
  have withinStops := stops_within hwithin filterStops
  have readWithin := hc.yields_within (m := m) hwithin (by omega) hk filterStops
  have readFilter := hc.yields_filter (m := m) hfilter (by omega) hk acrossStops
  have readAcross := hc.yields_across (m := m) hacross (by omega) hk hafter
  have nulls : Yields (do if c.arguments.before.isEmpty then nullTreatment else return none) depth
      (across ++ after) none (across ++ after) := (acrossStops.no_oneOf (by decide)).bind .pure
  have single : Yields (do
      if (Dialect.generic.isClickhouse || Dialect.generic.isGeneric) && (← peekSymbol "(") then
        skip
        return (c.arguments.pieces, ← Parser.arguments (rules m))
      else return ([], c.arguments)) depth (within ++ (filter ++ (across ++ after)))
      ([], c.arguments) (within ++ (filter ++ (across ++ after))) :=
    (withinStops.no_peekSymbol (by decide)).bind .pure
  exact single.bind (readWithin.bind (readFilter.bind (nulls.bind (readAcross.bind .pure))))

theorem Reads.yields_call (depth : Nat) (hc : c.Reads k)
    (hls : ls.map (·.token) = c.behindTokens) (hm : 4 * ls.length + 1 ≤ m) (hk : k ≤ depth)
    (hafter : Follows h after) :
    Yields (call (rules m) [c.name.ident]) depth (ls ++ after) c.tree after := by
  obtain ⟨args, ls, rfl, hargs, hls⟩ := List.map_eq_append_iff.mp hls
  obtain ⟨within, ls, rfl, hwithin, hls⟩ := List.map_eq_append_iff.mp hls
  obtain ⟨filter, across, rfl, hfilter, hacross⟩ := List.map_eq_append_iff.mp hls
  have behind := hc.yields_afterArguments depth (m := m) hwithin hfilter hacross
    (by simp at hm; omega) hk hafter.stops
  obtain ⟨l, rest, e, -⟩ :=
    stops_within hwithin (stops_filter hfilter (stops_across hacross hafter.stops))
  rw [List.append_assoc, List.append_assoc, List.append_assoc]
  rw [e] at behind ⊢
  obtain ⟨mid, opened, read⟩ := hc.parenthesized_arguments rest (l := l) (m := m) hargs
    (by simp at hm; omega) hk
  exact yields_dialect.bind (opened.bind (read.bind behind))

-- The entries of a call are without brackets.
structure IsSmooth (c : Invocation) : Prop where
  args : ∀ x ∈ c.args, Smooth x.tokens
  order : ∀ x ∈ c.order, Smooth x.tokens
  within : ∀ x ∈ c.within, Smooth x.tokens
  filter : ∀ x ∈ c.filter, Smooth x.tokens
  partition : ∀ w ∈ c.across, ∀ x ∈ w.partition, Smooth x.tokens
  windowOrder : ∀ w ∈ c.across, ∀ x ∈ w.order, Smooth x.tokens

theorem IsSmooth.behind (hc : c.IsSmooth) : Rounded c.behindTokens := by
  have arguments : Smooth c.argumentTokens := by
    have args : Smooth (commaTokens (c.args.map (·.tokens))) := .commas (by simpa using hc.args)
    have rest := args.append (.listClause ["ORDER", "BY"] hc.order)
    unfold argumentTokens
    split
    case isTrue => exact .cons nofun nofun rest
    case isFalse => exact rest
  have within : Smooth c.withinTokens := by
    unfold withinTokens
    split
    case isTrue => exact .nil
    case isFalse => exact .words ["WITHIN", "GROUP"] (.parens (.listClause _ hc.within))
  have filter : Smooth c.filterTokens := by
    unfold filterTokens
    split
    case h_1 => exact .nil
    case h_2 x e => exact .cons nofun nofun (.parens (.cons nofun nofun (hc.filter x e)))
  have across : Smooth ((c.across.map Window.tokens).getD []) := by
    cases e : c.across
    case none => exact .nil
    case some w =>
      exact .cons nofun nofun (.parens ((Smooth.listClause _ (hc.partition w e)).append
        (.listClause _ (hc.windowOrder w e))))
  exact (Rounded.parens arguments).append (within.append (filter.append across))

theorem IsSmooth.rounded (hc : c.IsSmooth) (callable : c.name.isCallable) (hw : c.name.Spelled) :
    Rounded c.tokens := by
  have ⟨_, word⟩ := hw.word
  have opens : c.name.token.opens := (Bool.and_eq_true_iff.mp callable).1
  exact .cons hc.behind.smooth opens (by rw [word]; nofun)

theorem Reads.call (hc : c.Reads k) (hw : c.name.Spelled) (callable : c.name.isCallable)
    (smooth : c.IsSmooth) : Sql.Reads (.call c.tree) c.tokens 100 100 k := by
  refine .of_root fun m depth ls after hls hm hk hafter => ?_
  obtain ⟨l, ls, rfl, hl, hls⟩ := List.map_eq_cons_iff.mp hls
  have ⟨kw, word⟩ := hw.word
  have callable : c.name.token.opens ∧ l.token.keyword ∉ typeWords ∧
      l.token.keyword ∉ specialWords := by
    simpa [Word.isCallable, hl] using callable
  have settled : Settled (ls ++ after) := settled smooth.behind hls hafter
  have read := hc.yields_call depth (m := m) hls (by simp [Unfolded] at hm; omega) hk hafter
  obtain ⟨l', ls, rfl, hl', -⟩ := List.map_eq_cons_iff.mp hls
  have untyped : Fails (typedLiteral (rules m)) depth (l :: (l' :: ls ++ after)) :=
    fails_typedLiteral (hl.trans word) (keywordType?_none callable.2.1) settled
  have named : Yields (nameExpr (rules m) c.name.ident) depth (l' :: ls ++ after) (.call c.tree)
      after := by
    refine yields_dialect.bind (yields_token.bind ?_)
    rw [hl']
    exact read.bind .pure
  have shown : (if c.name.ident.quote.isNone then kw else "") = l.token.keyword := by
    rw [hl, word]
    cases c.name.ident.quote <;> rfl
  refine yields_prefixExpr_word (hl.trans word) untyped ?_
  rw [shown]
  exact (keywordForm?_none callable.2.2).attempt'.bind named

end Invocation

end Arguments

end SqlLens.Sql
