import SqlLens.Proofs.Sql.Select

namespace SqlLens.Sql

open SqlLens.Sql.Parser

-- The body of a query may stand in front of a lock. Without a source the lock would be an alias.
def Body.takesLock : Body → Bool
  | .select s => !s.from_.isEmpty
  | .query _ => true
  | .setOperation _ _ _ r => r.takesLock
  | .phrase _ => false

-- What a query is locked for.
inductive Lock where
  | update
  | share

def Lock.word : Lock → String
  | .update => "UPDATE"
  | .share => "SHARE"

def Lock.tokens (x : Lock) : List Token := [.ofWord "FOR", .ofWord x.word]

def Lock.pieces (x : Lock) : List Piece := Phrase.words (" FOR " ++ x.word) ++ Phrase.words ""

-- A common table expression with its text.
structure Common where
  name    : Word
  columns : List Word := []
  query   : Entry Query

namespace Common

def tree (c : Common) : Cte where
  name    := c.name.ident
  columns := c.columns.map fun w => { name := w.ident }
  query   := c.query.tree

def tokens (c : Common) : List Token :=
  c.name.token :: (columnTokens c.columns ++ .ofWord "AS" :: parenTokens c.query.tokens)

-- A blank may stand in front of the columns.
def text (c : Common) (blank : Bool) : String :=
  c.name.text ++ (if c.columns.isEmpty then "" else
    (if blank then " " else "") ++ "(" ++ commas (c.columns.map Word.text) ++ ")") ++
    " AS (" ++ c.query.text ++ ")"

end Common

-- A query with its text.
structure Request where
  recursive : Bool := false
  ctes      : List (Entry Cte) := []
  body      : Entry Body
  order     : List (Entry OrderItem) := []
  limit     : Option (Entry Expr) := none
  offset    : Option (Entry Expr) := none
  locks     : List Lock := []

namespace Request

def tree (q : Request) : Query where
  recursive := q.recursive
  ctes      := q.ctes.map (·.tree)
  body      := q.body.tree
  order     := .items (q.order.map (·.tree))
  limits    := .plain (q.limit.map (·.tree)) (q.offset.map (·.tree)) .none []
  rest      := (q.locks.map Lock.pieces).flatten

def withTokens (q : Request) : List Token :=
  if q.ctes.isEmpty then []
  else .ofWord "WITH" :: ((if q.recursive then [.ofWord "RECURSIVE"] else []) ++
    commaTokens (q.ctes.map (·.tokens)))

def limitTokens (q : Request) : List Token := clauseTokens ["LIMIT"] (q.limit.map (·.tokens))

def offsetTokens (q : Request) : List Token := clauseTokens ["OFFSET"] (q.offset.map (·.tokens))

def tokens (q : Request) : List Token :=
  q.withTokens ++ (q.body.tokens ++ (clauseTokens ["ORDER", "BY"] (listTokens? q.order) ++
    (q.limitTokens ++ (q.offsetTokens ++ (q.locks.map Lock.tokens).flatten))))

def text (q : Request) : String :=
  (if q.ctes.isEmpty then ""
    else (if q.recursive then "WITH RECURSIVE " else "WITH ") ++ commas (q.ctes.map (·.text)) ++
      " ") ++
    q.body.text ++ clauseText "ORDER BY" (listText? q.order) ++
    clauseText "LIMIT" (q.limit.map (·.text)) ++ clauseText "OFFSET" (q.offset.map (·.text)) ++
    String.join (q.locks.map fun x => " FOR " ++ x.word)

end Request

variable {depth m k lk rk : Nat} {l l' : Lexeme} {ls rest after : List Lexeme} {r : Rules}
  {ts lts rts : List Token} {b left right : Body} {q : Query} {s : Selection} {c : Common}
  {stops : List String}

section Bodies

-- A body without set operations reads back in front of the clauses of a query.
def TermReads (b : Body) (ts : List Token) (levels : Nat) : Prop :=
  ∀ stops, stops ⊆ selectStops → ("FOR" ∈ stops → b.takesLock) →
    ReadsWithin 5 simpleBody stops b ts levels

-- A body with its set operations reads back so.
def BodyReads (b : Body) (ts : List Token) (levels : Nat) : Prop :=
  ∀ stops, stops ⊆ [")", ";", "ORDER", "LIMIT", "OFFSET", "FOR"] →
    ("FOR" ∈ stops → b.takesLock) → ReadsWithin 5 (fun r => body r 0) stops b ts levels

theorem Selection.Reads.term (hs : s.Reads k) : TermReads (.select s.tree) s.tokens k := by
  intro stops sub lock m depth ls after hls hm hk hafter
  have read := hs.select sub (fun h => by simpa [Body.takesLock, Selection.tree] using lock h) m
    depth ls after hls hm hk hafter
  obtain ⟨p, gap, ls, rfl, -⟩ := exists_lexemes hls
  have here : Yields (peekKeyword "SELECT") depth
      (⟨.ofWord "SELECT", p, gap⟩ :: (ls ++ after)) true
      (⟨.ofWord "SELECT", p, gap⟩ :: (ls ++ after)) := rfl
  refine yields_dialect.bind (here.bind ((yields_peekKeyword "FROM").bind ?_))
  exact read.bind .pure

theorem TermReads.enclosed (hq : ReadsBefore (fun r => r.query) [")"] q ts k) (hts : ts ≠ []) :
    TermReads (.query q) (parenTokens ts) k := by
  intro stops _ _ m depth ls after hls hm hk hafter
  obtain ⟨l, rest, rfl, -⟩ := hafter
  have read := hq.parenthesized depth rest (l := l) (m := m) (by simp) hts hls
    (by omega) hk
  obtain ⟨first, inside, last, rfl, hfirst, -, -⟩ := exists_parens hls
  have no (k : String) (hk : k ≠ "") : Yields (peekKeyword k) depth
      (first :: (inside ++ [last]) ++ l :: rest) false
      (first :: (inside ++ [last]) ++ l :: rest) := by
    have : first.token.isKeyword k = false := by
      rw [hfirst]
      exact beq_eq_false_iff_ne.mpr hk.symm
    exact this ▸ yields_peekKeyword k
  have opened : Yields (peekSymbol "(") depth (first :: (inside ++ [last]) ++ l :: rest) true
      (first :: (inside ++ [last]) ++ l :: rest) := by
    have : first.token.isSymbol "(" := by rw [hfirst]; rfl
    exact this ▸ yields_peekSymbol "("
  refine yields_dialect.bind ((no "SELECT" (by decide)).bind ((no "FROM" (by decide)).bind ?_))
  exact opened.bind (read.bind .pure)

theorem no_setOperator (hafter : Stops [")", ";", "ORDER", "LIMIT", "OFFSET", "FOR"] after) :
    Yields setOperator? depth after none after := by
  obtain ⟨l, rest, rfl, hl⟩ := hafter
  refine yields_token.bind ?_
  unfold Token.isAmong at hl
  split at hl
  case h_1 e | h_2 e =>
    rw [e]
    exact .pure
  case h_3 text k e =>
    rw [Bool.and_eq_true, List.contains_iff_mem] at hl
    obtain ⟨hl, -⟩ := hl
    rw [e]
    fin_cases hl
    all_goals exact .pure
  case h_4 => cases hl

theorem TermReads.body (hb : TermReads b ts k) : BodyReads b ts k := by
  intro stops sub lock m depth ls after hls hm hk hafter
  have read := hb stops (List.Subset.trans sub (by decide)) lock m depth ls after hls hm hk hafter
  exact read.bind (yields_repeated_none ((no_setOperator (hafter.mono sub)).bind .pure))

def quantifierTokens : Quantifier → List Token
  | .all => [.ofWord "ALL"]
  | .distinct => [.ofWord "DISTINCT"]
  | _ => []

-- Quantifiers of one word.
def isPlain : Quantifier → Bool
  | .none | .all | .distinct => true
  | _ => false

-- What a body begins with.
def Token.beginsBody (t : Token) : Bool := t.isKeyword "SELECT" || t.isSymbol "("

-- What a query begins with.
def Token.beginsStatement (t : Token) : Bool := t.beginsQuery || t.isSymbol "("

theorem Request.begins (q : Request) (body : Begins (·.beginsBody) q.body.tokens) :
    Begins (·.beginsStatement) q.tokens := by
  rw [Request.tokens, Request.withTokens]
  split
  case isTrue =>
    obtain ⟨t, ts, e, ht⟩ := body
    refine ⟨t, _, by rw [e]; rfl, ?_⟩
    simp only [Token.beginsBody, Token.beginsStatement, Token.beginsQuery, Bool.or_eq_true] at ht ⊢
    tauto
  case isFalse => exact ⟨_, _, rfl, rfl⟩

theorem Token.not_keyword_of_beginsBody {t : Token} (ht : t.beginsBody) {word : String}
    (hw : word ∉ ["", "SELECT"]) : t.isKeyword word = false := by
  simp only [List.mem_cons, List.not_mem_nil, or_false, not_or] at hw
  rw [beginsBody, Bool.or_eq_true] at ht
  refine beq_eq_false_iff_ne.mpr ?_
  cases ht
  case inl h =>
    rw [isKeyword, beq_iff_eq] at h
    rw [h]
    exact Ne.symm hw.2
  case inr h =>
    rw [Token.eq_of_isSymbol h]
    exact Ne.symm hw.1

theorem Token.isAmong_of_beginsBody {t : Token} (ht : t.beginsBody) :
    t.isAmong ["SELECT", "("] := by
  rw [beginsBody, Bool.or_eq_true] at ht
  cases ht
  case inl h =>
    rw [isKeyword, beq_iff_eq] at h
    unfold keyword at h
    split at h
    case h_1 =>
      subst h
      rfl
    case h_2 => exact absurd h (by decide)
  case inr h =>
    rw [Token.eq_of_isSymbol h]
    rfl

theorem yields_setQuantifier (depth : Nat) (rest : List Lexeme) {quantifier : Quantifier}
    (plain : isPlain quantifier)
    (hls : ls.map (·.token) = quantifierTokens quantifier) (hl : l.token.beginsBody) :
    Yields setQuantifier depth (ls ++ l :: rest) quantifier (l :: rest) := by
  have no {word : String} (hw : word ∉ ["", "SELECT"]) : l.token.isKeyword word = false :=
    Token.not_keyword_of_beginsBody hl hw
  cases quantifier
  case none =>
    obtain rfl := List.map_eq_nil_iff.mp hls
    refine (no_keywords_first (no (by decide))).bind ((no_keywords_first (no (by decide))).bind ?_)
    exact (yields_no_keyword (no (by decide))).bind ((yields_no_keyword (no (by decide))).bind .pure)
  case all =>
    obtain ⟨p, gap, rfl⟩ := exists_lexeme hls
    refine (no_keywords_first rfl).bind ((no_keywords_first rfl).bind ?_)
    exact (yields_keyword rfl (by decide)).bind ((no_keywords_first (no (by decide))).bind .pure)
  case distinct =>
    obtain ⟨p, gap, rfl⟩ := exists_lexeme hls
    refine (no_keywords_second (no (by decide))).bind ((no_keywords_first rfl).bind ?_)
    exact (yields_no_keyword rfl).bind ((yields_keyword rfl (by decide)).bind .pure)
  all_goals cases plain

-- One round of the loop over the operators between queries.
def operatorStep (r : Rules) (strength : Nat) (left : Body) : Parser (Option Body) := do
  match ← setOperator? with
  | none => return none
  | some op =>
    if strength ≥ op.strength then return none
    skip
    let quantifier ← setQuantifier
    return some (.setOperation op quantifier left (← r.body op.strength))

-- A body in front of a set operator, and what the loop makes of it.
theorem yields_body {strength : Nat} {e : Body} {mid : List Lexeme}
    (first : Yields (simpleBody r) depth ls left mid)
    (loop : Yields (repeated (operatorStep r strength) left) depth mid e after) :
    Yields (body r strength) depth ls e after := first.bind loop

theorem yields_operatorStep_none {strength : Nat} (h : Yields setOperator? depth ls none ls) :
    Yields (operatorStep r strength left) depth ls none ls := h.bind .pure

theorem yields_operatorStep (left : Body) {op : SetOperator} {quantifier : Quantifier} {l : Lexeme}
    {behind : List Lexeme} (hl : l.token = .ofWord op.keyword) (hop : op ≠ .minus)
    (hbehind : behind ≠ []) (hquant : Yields setQuantifier depth behind quantifier rest)
    (hright : Yields (r.body op.strength) depth rest right after) :
    Yields (operatorStep r 0 left) depth (l :: behind)
      (some (.setOperation op quantifier left right)) after := by
  obtain ⟨token, p, gap⟩ := l
  obtain rfl : token = .ofWord op.keyword := hl
  have operator : Yields setOperator? depth (⟨.ofWord op.keyword, p, gap⟩ :: behind) (some op)
      (⟨.ofWord op.keyword, p, gap⟩ :: behind) := by
    cases op
    case minus => contradiction
    all_goals rfl
  have tight : ¬0 ≥ op.strength := by cases op <;> decide
  refine operator.bind ?_
  simp only [tight, if_false]
  obtain ⟨l', behind, rfl⟩ := List.exists_cons_of_ne_nil hbehind
  exact (yields_skip rfl).bind (hquant.bind (hright.bind .pure))

theorem BodyReads.setOperation (hl : TermReads left lts lk) (hr : TermReads right rts rk)
    (op : SetOperator) (hop : op ≠ .minus) {quantifier : Quantifier} (plain : isPlain quantifier)
    (begins : Begins (fun t => t.beginsBody) rts) :
    BodyReads (.setOperation op quantifier left right)
      (lts ++ .ofWord op.keyword :: (quantifierTokens quantifier ++ rts)) (max lk rk) := by
  intro stops sub lock m depth ls after hls hm hk hafter
  obtain ⟨first, ls, rfl, hfirst, hls⟩ := List.map_eq_append_iff.mp hls
  obtain ⟨p, gap, ls, rfl, hls'⟩ := exists_lexemes hls
  obtain ⟨quant, second, rfl, hquant, hsecond⟩ := List.map_eq_append_iff.mp hls'
  have sub' := List.Subset.trans sub (by decide : _ ⊆ selectStops)
  have stop : Stops ["UNION", "EXCEPT", "INTERSECT"]
      (⟨.ofWord op.keyword, p, gap⟩ :: (quant ++ (second ++ after))) := by
    refine ⟨_, _, rfl, ?_⟩
    cases op
    case minus => contradiction
    all_goals rfl
  have readFirst := hl ["UNION", "EXCEPT", "INTERSECT"] (by decide) (by simp) m depth first _ hfirst
    (by simp at hm; omega) (by omega) stop
  obtain ⟨m, rfl⟩ : ∃ m', m = m' + 1 := ⟨m - 1, by omega⟩
  have readSecond := hr stops sub' lock m depth second after hsecond (by simp at hm; omega)
    (by omega) hafter
  have stopped {r : Rules} {b : Body} {strength : Nat} :
      Yields (operatorStep r strength b) depth after none after :=
    yields_operatorStep_none (no_setOperator (hafter.mono sub))
  have readBody : Yields ((rules (m + 1)).body op.strength) depth (second ++ after) right after :=
    yields_body readSecond (yields_repeated_none stopped)
  have shorter :
      after.length < (⟨.ofWord op.keyword, p, gap⟩ :: (quant ++ (second ++ after))).length := by
    simp
    omega
  obtain ⟨l, second, rfl, starts⟩ := begins.exists_cons hsecond
  have readQuantifier := yields_setQuantifier depth (second ++ after) plain hquant starts
  have step := yields_operatorStep left (l := ⟨.ofWord op.keyword, p, gap⟩) rfl hop
    (by simp) readQuantifier readBody
  simp only [List.cons_append, List.append_assoc]
  exact yields_body readFirst (yields_repeated (.single ⟨step, shorter⟩) stopped)

end Bodies

section Ctes

theorem Common.reads (hc : c.name.Spelled) (columns : ∀ w ∈ c.columns, w.Spelled)
    (hq : ReadsBefore (fun r => r.query) [")"] c.query.tree c.query.tokens k)
    (hts : c.query.tokens ≠ []) : ReadsBefore cte [",", "SELECT", "("] c.tree c.tokens k := by
  intro m depth ls after hls hm hk hafter
  obtain ⟨l, ls, rfl, hl, hls⟩ := List.map_eq_cons_iff.mp hls
  obtain ⟨names, ls, rfl, hnames, hls⟩ := List.map_eq_append_iff.mp hls
  obtain ⟨p, gap, ls, rfl, hls'⟩ := exists_lexemes hls
  have ⟨keyword, word⟩ := hc.word
  have unfrom : Yields (after? "FROM" ident) depth after none after := hafter.no_after (by decide)
  obtain ⟨l', rest, rfl, -⟩ := hafter
  have readQuery := hq.parenthesized depth rest (l := l') (m := m) (by simp) hts
    hls' (by simp at hm; omega) hk
  obtain ⟨first, inside, last, rfl, hfirst, -, -⟩ := exists_parens hls'
  have readNames : Yields (do
      if ← peekKeyword "AS" then return [] else aliasColumns (rules m)) depth
      (names ++ ⟨.ofWord "AS", p, gap⟩ :: (first :: (inside ++ [last]) ++ l' :: rest))
      (c.columns.map fun w => ({ name := w.ident } : AliasColumn))
      (⟨.ofWord "AS", p, gap⟩ :: (first :: (inside ++ [last]) ++ l' :: rest)) := by
    have read := yields_aliasColumns depth (⟨.ofWord "AS", p, gap⟩ ::
      (first :: (inside ++ [last]) ++ l' :: rest)) (m := m) columns hnames (by simp at hm; omega)
      ⟨_, _, rfl, rfl⟩
    unfold columnTokens at hnames
    cases e : c.columns
    case nil =>
      rw [e] at hnames
      obtain rfl := List.map_eq_nil_iff.mp hnames
      exact (yields_peekKeyword "AS").bind .pure
    case cons w ws =>
      rw [e] at hnames read
      obtain ⟨open_, names, rfl, hopen, -⟩ := List.map_eq_cons_iff.mp hnames
      have unnamed : open_.token.isKeyword "AS" = false := by rw [hopen]; rfl
      exact (yields_peekKeyword "AS").bind (by rw [unnamed]; exact read)
  have marked : Yields (expectKeyword "AS") depth
      (⟨.ofWord "AS", p, gap⟩ :: (first :: (inside ++ [last]) ++ l' :: rest)) ()
      (first :: (inside ++ [last]) ++ l' :: rest) := rfl
  have named : Yields ident depth
      (l :: (names ++ ⟨.ofWord "AS", p, gap⟩ :: (first :: (inside ++ [last]) ++ l' :: rest)))
      c.name.ident
      (names ++ ⟨.ofWord "AS", p, gap⟩ :: (first :: (inside ++ [last]) ++ l' :: rest)) := by
    cases names <;> exact yields_ident (hl.trans word)
  have common : Yields (cte (rules m)) depth
      (l :: (names ++ ⟨.ofWord "AS", p, gap⟩ :: (first :: (inside ++ [last]) ++ l' :: rest))) c.tree
      (l' :: rest) := by
    refine yields_dialect.bind (named.bind (readNames.bind (marked.bind ?_)))
    exact Yields.bind (a := none) .pure (readQuery.bind (unfrom.bind .pure))
  simpa using common

end Ctes

-- The parts of a query read back, and each begins so that it is read as what it is.
structure Request.Reads (q : Request) (k : Nat) : Prop where
  ctes : ∀ x ∈ q.ctes, ReadsBefore cte [",", "SELECT", "("] x.tree x.tokens k
  named : ∀ x ∈ q.ctes, Begins (fun t => t.isKeyword "RECURSIVE" = false) x.tokens
  recursive : q.ctes = [] → q.recursive = false
  body : BodyReads q.body.tree q.body.tokens k
  begins : Begins (fun t => t.beginsBody) q.body.tokens
  order : ∀ x ∈ q.order, ReadsBefore orderItem orderStops x.tree x.tokens k
  orders : ∀ x ∈ q.order, x.tokens ≠ []
  limit : ∀ x ∈ q.limit,
    ReadsBefore (fun r => r.expr 0) ["OFFSET", ")", ";", "FOR"] x.tree x.tokens k
  limits : ∀ x ∈ q.limit, Begins (fun t => t.isKeyword "ALL" = false) x.tokens
  offset : ∀ x ∈ q.offset, ReadsBefore (fun r => r.expr 0) [")", ";", "FOR"] x.tree x.tokens k
  offsets : ∀ x ∈ q.offset, x.tokens ≠ []
  locks : q.locks ≠ [] → q.body.tree.takesLock

namespace Request.Reads

variable {q : Request}

theorem yields_with (depth : Nat) (rest : List Lexeme) (hq : q.Reads k)
    (hls : ls.map (·.token) = q.withTokens) (hm : 4 * ls.length + 5 ≤ m) (hk : k ≤ depth)
    (hl : l.token.beginsBody) :
    Yields (do
      if ← keyword? "WITH" then
        let recursive ← keyword? "RECURSIVE"
        return (recursive, ← commaSeparated (cte (rules m)))
      else return (false, [])) depth (ls ++ l :: rest) (q.recursive, q.ctes.map (·.tree))
      (l :: rest) := by
  unfold withTokens at hls
  by_cases none : q.ctes = []
  case pos =>
    simp only [none, List.isEmpty_nil, if_true] at hls
    obtain rfl := List.map_eq_nil_iff.mp hls
    have unnamed : l.token.isKeyword "WITH" = false :=
      Token.not_keyword_of_beginsBody hl (by decide)
    rw [none, hq.recursive none]
    exact (yields_no_keyword unnamed).bind .pure
  case neg =>
    simp only [List.isEmpty_iff, none, if_false] at hls
    obtain ⟨p, gap, ls, rfl, hls'⟩ := exists_lexemes hls
    obtain ⟨mark, ctes, rfl, hmark, hctes⟩ := List.map_eq_append_iff.mp hls'
    have behind : Stops ["SELECT", "("] (l :: rest) :=
      ⟨l, rest, rfl, Token.isAmong_of_beginsBody hl⟩
    have read := yields_entries ["SELECT", "("] (p := cte) none hq.ctes hq.named
      (by decide) (by decide) (by decide) m depth ctes (l :: rest) hctes (by simp at hm; omega) hk
      behind
    obtain ⟨y, ctes, rfl, plain⟩ :=
      (Begins.commas (by simpa using none) (by simpa using hq.named)).exists_cons hctes
    have marked : Yields (keyword? "RECURSIVE") depth (mark ++ y :: (ctes ++ l :: rest)) q.recursive
        (y :: (ctes ++ l :: rest)) := by
      cases e : q.recursive
      case false =>
        rw [e] at hmark
        obtain rfl := List.map_eq_nil_iff.mp hmark
        exact yields_no_keyword plain
      case true =>
        rw [e] at hmark
        obtain ⟨p', gap', rfl⟩ := exists_lexeme hmark
        exact yields_keyword rfl (by decide)
    have taken : Yields (keyword? "WITH") depth
        (⟨.ofWord "WITH", p, gap⟩ :: (mark ++ y :: (ctes ++ l :: rest))) true
        (mark ++ y :: (ctes ++ l :: rest)) := by
      cases mark <;> exact yields_keyword rfl (by decide)
    simp only [List.cons_append, List.append_assoc]
    exact taken.bind (marked.bind (read.bind .pure))

theorem yields_ordering (hq : q.Reads k)
    (hls : ls.map (·.token) = clauseTokens ["ORDER", "BY"] (listTokens? q.order))
    (hm : 4 * ls.length + 5 ≤ m) (hk : k ≤ depth)
    (hafter : Stops ["LIMIT", "OFFSET", ")", ";", "FOR"] after) :
    Yields (ordering (rules m)) depth (ls ++ after) (.items (q.order.map (·.tree)), []) after := by
  have each := hq.order
  have filled := hq.orders
  cases e : q.order
  case nil =>
    rw [e] at hls
    obtain rfl := List.map_eq_nil_iff.mp hls
    exact (hafter.no_keywords (by decide)).bind .pure
  case cons x xs =>
    rw [e] at hls each filled
    obtain ⟨p, gap, ls, rfl, hls'⟩ := exists_lexemes hls
    obtain ⟨p', gap', ls, rfl, hitems⟩ := exists_lexemes hls'
    have read := yields_entries ["LIMIT", "OFFSET", ")", ";", "FOR"] (p := orderItem)
      (by simp) each (fun y hy => exists_begins (filled y hy)) (by decide) (by decide) (by decide) m
      depth ls after hitems (by simp at hm; omega) hk hafter
    have words : Yields (keywords? ["ORDER", "BY"]) depth
        (⟨.ofWord "ORDER", p, gap⟩ :: ⟨.ofWord "BY", p', gap'⟩ :: (ls ++ after)) true
        (ls ++ after) := rfl
    have uninterpolated : Yields (interpolation (rules m)) depth after [] after :=
      yields_dialect.bind ((hafter.no_keyword (by decide)).bind .pure)
    have items : Yields (do
        let items ← orderItems (rules m)
        return (OrderBy.items items, ← interpolation (rules m))) depth (ls ++ after)
        (.items ((x :: xs).map (·.tree)), []) after := read.bind (uninterpolated.bind .pure)
    have behind : ∃ l rest, ls ++ after = l :: rest := by
      obtain ⟨l, rest, rfl, -⟩ := hafter
      cases ls <;> exact ⟨_, _, rfl⟩
    obtain ⟨l, rest, e'⟩ := behind
    simp only [List.cons_append]
    rw [e'] at words items ⊢
    refine words.bind (yields_dialect.bind ((yields_peekKeyword "ALL").bind ?_))
    exact items

theorem yields_limits (depth : Nat) (hq : q.Reads k) {limit offset : List Lexeme}
    (hlimit : limit.map (·.token) = q.limitTokens) (hoffset : offset.map (·.token) = q.offsetTokens)
    (hm : 4 * (limit.length + offset.length) + 5 ≤ m) (hk : k ≤ depth)
    (hafter : Stops [")", ";", "FOR"] after) :
    Yields (Parser.limits (rules m)) depth (limit ++ (offset ++ after))
      (.plain (q.limit.map (·.tree)) (q.offset.map (·.tree)) .none []) after := by
  have offsetStops : Stops ["OFFSET", ")", ";", "FOR"] (offset ++ after) :=
    hafter.clause hoffset rfl rfl
  have readOffset : Yields (offset? (rules m)) depth (offset ++ after)
      (q.offset.map fun x => (x.tree, Rows.none)) after := by
    unfold offsetTokens at hoffset
    cases e : q.offset
    case none =>
      rw [e] at hoffset
      obtain rfl := List.map_eq_nil_iff.mp hoffset
      exact hafter.no_after (by decide)
    case some x =>
      rw [e] at hoffset
      obtain ⟨p, gap, offset, rfl, hkey⟩ := exists_lexemes hoffset
      have read := hq.offset x e m depth offset after hkey (by simp at hm; omega) hk hafter
      obtain ⟨l, offset, rfl⟩ := List.exists_cons_of_ne_nil
        (by rintro rfl; exact hq.offsets x e hkey.symm : offset ≠ [])
      have rows : Yields offsetRows depth after .none after :=
        (hafter.no_keyword (by decide)).bind ((hafter.no_keyword (by decide)).bind .pure)
      exact (yields_keyword rfl (by decide)).bind (.bind (read.bind (rows.bind .pure)) .pure)
  unfold limitTokens at hlimit
  cases e : q.limit
  case none =>
    rw [e] at hlimit
    obtain rfl := List.map_eq_nil_iff.mp hlimit
    have plain := readOffset
    refine yields_dialect.bind (plain.bind ((hafter.no_keyword (by decide)).bind ?_))
    cases q.offset <;> exact .pure
  case some x =>
    rw [e] at hlimit
    obtain ⟨p, gap, limit, rfl, hkey⟩ := exists_lexemes hlimit
    have read := hq.limit x e m depth limit (offset ++ after) hkey (by simp at hm; omega) hk
      offsetStops
    obtain ⟨l, limit, rfl, unall⟩ := (hq.limits x e).exists_cons hkey
    have early : Yields (offset? (rules m)) depth
        (⟨.ofWord "LIMIT", p, gap⟩ :: (l :: limit ++ (offset ++ after))) none
        (⟨.ofWord "LIMIT", p, gap⟩ :: (l :: limit ++ (offset ++ after))) :=
      (yields_no_keyword rfl).bind .pure
    have limited : Yields (limit? (rules m)) depth (l :: limit ++ (offset ++ after)) (some x.tree)
        (offset ++ after) := (yields_no_keyword unall).bind (read.bind .pure)
    refine yields_dialect.bind (early.bind ((yields_keyword rfl (by decide)).bind ?_))
    refine limited.bind ((offsetStops.no_peekSymbol (by decide)).bind ?_)
    refine Yields.bind (a := []) ((offsetStops.no_peekKeyword (by decide)).bind .pure) ?_
    refine readOffset.bind ?_
    cases q.offset <;> exact .pure

-- One round of the loop over the locks behind a query.
def lockStep : List Piece × Bool → Parser (Option (List Piece × Bool)) := fun (pieces, done) => do
  if done || !(← keyword? "FOR") then return none
  if ← keyword? "XML" then return some (pieces ++ (← forXml), true)
  if ← keyword? "JSON" then return some (pieces ++ (← forJson), true)
  if ← keyword? "BROWSE" then return some (pieces ++ Phrase.words " FOR BROWSE", true)
  return some (pieces ++ (← lock), false)

theorem yields_locks (depth : Nat) (locks : List Lock)
    (hls : ls.map (·.token) = (locks.map Lock.tokens).flatten)
    (hafter : Stops [")", ";"] after) :
    Yields forClauses depth (ls ++ after) (locks.map Lock.pieces).flatten after := by
  have loop (pieces : List Piece) : Relation.ReflTransGen (Advances lockStep depth)
      ((pieces, false), ls ++ after) ((pieces ++ (locks.map Lock.pieces).flatten, false), after) := by
    induction locks generalizing ls pieces
    case nil =>
      obtain rfl := List.map_eq_nil_iff.mp hls
      rw [List.map_nil, List.flatten_nil, List.append_nil]
      exact .refl
    case cons x locks hi =>
      obtain ⟨p, gap, ls, rfl, hls'⟩ := exists_lexemes hls
      obtain ⟨p', gap', ls, rfl, hls''⟩ := exists_lexemes hls'
      have behind : Stops ["FOR", ")", ";"] (ls ++ after) := by
        refine hafter.or_word ?_ rfl rfl
        cases locks
        case nil => exact .inl (List.map_eq_nil_iff.mp hls'')
        case cons =>
          obtain ⟨p, gap, ls, rfl, -⟩ := exists_lexemes hls''
          exact .inr ⟨_, _, rfl, rfl⟩
      have locked : Yields lock depth (⟨.ofWord x.word, p', gap'⟩ :: (ls ++ after)) x.pieces
          (ls ++ after) := by
        have kind : Yields (expectOneOf ["UPDATE", "SHARE"]) depth
            (⟨.ofWord x.word, p', gap'⟩ :: (ls ++ after)) x.word (ls ++ after) := by
          obtain ⟨l, rest, e, -⟩ := behind
          rw [e]
          cases x <;> rfl
        refine kind.bind ((behind.no_after (by decide)).bind ?_)
        exact ((behind.no_keyword (by decide)).bind
          ((behind.no_keywords (by decide)).bind (.pure (a := "")))).bind .pure
      have taken : Yields (lockStep (pieces, false)) depth
          (⟨.ofWord "FOR", p, gap⟩ :: ⟨.ofWord x.word, p', gap'⟩ :: (ls ++ after))
          (some (pieces ++ x.pieces, false)) (ls ++ after) := by
        have no (k : String) (hk : k ∉ ["UPDATE", "SHARE"]) : Yields (keyword? k) depth
            (⟨.ofWord x.word, p', gap'⟩ :: (ls ++ after)) false
            (⟨.ofWord x.word, p', gap'⟩ :: (ls ++ after)) := by
          have known : (Token.ofWord x.word).keyword ∈ ["UPDATE", "SHARE"] := by
            cases x <;> decide
          refine yields_no_keyword (beq_eq_false_iff_ne.mpr ?_)
          rintro rfl
          exact hk known
        refine (yields_keyword rfl (by decide)).bind ((no "XML" (by decide)).bind ?_)
        exact (no "JSON" (by decide)).bind ((no "BROWSE" (by decide)).bind (locked.bind .pure))
      have advanced : Advances lockStep depth
          ((pieces, false), ⟨.ofWord "FOR", p, gap⟩ :: ⟨.ofWord x.word, p', gap'⟩ :: (ls ++ after))
          ((pieces ++ x.pieces, false), ls ++ after) :=
        ⟨taken, by simp only [List.length_cons]; omega⟩
      rw [List.map_cons, List.flatten_cons, ← List.append_assoc]
      exact .head advanced (hi hls'' _)
  have stop (pieces : List Piece) : Yields (lockStep (pieces, false)) depth after none after :=
    (hafter.no_keyword (by decide)).bind .pure
  exact (yields_repeated (loop []) (stop _)).bind .pure

theorem query (hq : q.Reads k) :
    ReadsBefore (fun r => r.query) [")", ";"] q.tree q.tokens (k + 1) := by
  intro m depth ls after hls hm hk hafter
  obtain ⟨m, rfl⟩ : ∃ m', m = m' + 2 := ⟨m - 2, by omega⟩
  obtain ⟨depth, rfl⟩ : ∃ depth', depth = depth' + 1 := ⟨depth - 1, by omega⟩
  obtain ⟨ctes, ls, rfl, hctes, hls⟩ := List.map_eq_append_iff.mp hls
  obtain ⟨body, ls, rfl, hbody, hls⟩ := List.map_eq_append_iff.mp hls
  obtain ⟨order, ls, rfl, horder, hls⟩ := List.map_eq_append_iff.mp hls
  obtain ⟨limit, ls, rfl, hlimit, hls⟩ := List.map_eq_append_iff.mp hls
  obtain ⟨offset, locks, rfl, hoffset, hlocks⟩ := List.map_eq_append_iff.mp hls
  let closers := if q.locks = [] then [")", ";"] else ["FOR", ")", ";"]
  have lockStops : Stops closers (locks ++ after) := by
    unfold closers
    split
    case isTrue none =>
      rw [none] at hlocks
      obtain rfl := List.map_eq_nil_iff.mp hlocks
      exact hafter
    case isFalse filled =>
      obtain ⟨x, xs, e⟩ := List.exists_cons_of_ne_nil filled
      rw [e] at hlocks
      obtain ⟨p, gap, locks, rfl, -⟩ := exists_lexemes hlocks
      exact ⟨_, _, rfl, rfl⟩
  have sub : closers ⊆ [")", ";", "FOR"] := by
    unfold closers
    split <;> decide
  have offsetStops : Stops ("OFFSET" :: closers) (offset ++ (locks ++ after)) :=
    lockStops.clause hoffset rfl rfl
  have limitStops : Stops ("LIMIT" :: "OFFSET" :: closers) (limit ++ (offset ++ (locks ++ after))) :=
    offsetStops.clause hlimit rfl rfl
  have orderStops : Stops ("ORDER" :: "LIMIT" :: "OFFSET" :: closers)
      (order ++ (limit ++ (offset ++ (locks ++ after)))) := limitStops.clause horder rfl rfl
  have lock : "FOR" ∈ "ORDER" :: "LIMIT" :: "OFFSET" :: closers → q.body.tree.takesLock := by
    intro h
    apply hq.locks
    intro none
    simp [closers, none] at h
  have sub₁ := List.cons_subset_cons "OFFSET" sub
  have sub₂ := List.cons_subset_cons "LIMIT" sub₁
  have sub₃ := List.cons_subset_cons "ORDER" sub₂
  have readBody := hq.body _ (List.Subset.trans sub₃ (by decide)) lock m depth body _ hbody
    (by simp at hm; omega) (by omega) orderStops
  have readLimits := hq.yields_limits depth (m := m + 1) hlimit hoffset
    (by simp at hm; omega) (by omega) (lockStops.mono sub)
  have readLocks := yields_locks depth q.locks hlocks hafter
  obtain ⟨l, body, rfl, starts⟩ := hq.begins.exists_cons hbody
  have readWith := hq.yields_with depth (body ++ (order ++ (limit ++ (offset ++ (locks ++ after)))))
    (l := l) (m := m + 1) hctes
    (by simp at hm; omega) (by omega) starts
  have unchanged : Yields (peekAny ["INSERT", "UPDATE", "DELETE", "MERGE"]) depth
      (l :: (body ++ (order ++ (limit ++ (offset ++ (locks ++ after)))))) false
      (l :: (body ++ (order ++ (limit ++ (offset ++ (locks ++ after)))))) := by
    have none : ["INSERT", "UPDATE", "DELETE", "MERGE"].contains l.token.keyword = false := by
      have apart (k : String) (hk : k ∉ ["", "SELECT"]) : l.token.keyword ≠ k :=
        beq_eq_false_iff_ne.mp (Token.not_keyword_of_beginsBody starts hk)
      simp [apart]
    exact none ▸ rfl
  have tail : Yields (queryTail (rules (m + 1)) q.recursive (q.ctes.map (·.tree)) q.body.tree) depth
      (order ++ (limit ++ (offset ++ (locks ++ after)))) q.tree after := by
    have locked := lockStops.mono sub
    have ordered : Yields (ordering (rules (m + 1))) depth
        (order ++ (limit ++ (offset ++ (locks ++ after)))) (.items (q.order.map (·.tree)), [])
        (limit ++ (offset ++ (locks ++ after))) :=
      hq.yields_ordering horder (by simp at hm; omega) (by omega) (limitStops.mono sub₂)
    have settled : Yields (settings? (rules (m + 1))) depth (locks ++ after) none (locks ++ after) :=
      yields_dialect.bind (locked.no_after (by decide))
    have unfetched : Yields fetch depth (locks ++ after) [] (locks ++ after) :=
      (locked.no_keyword (by decide)).bind .pure
    have unformatted : Yields formatClause depth after [] after :=
      yields_dialect.bind ((hafter.no_keyword (by decide)).bind .pure)
    have unpiped : Yields (pipes (rules (m + 1))) depth after [] after := by
      refine yields_dialect.bind (Yields.bind (yields_many_nil ?_) .pure)
      exact (hafter.no_symbol (by decide)).bind .pure
    refine ordered.bind (readLimits.bind (settled.bind (unfetched.bind (readLocks.bind ?_))))
    refine unformatted.bind (unpiped.bind ?_)
    simp only [Phrase.option, List.nil_append, List.append_nil]
    exact .pure
  simp only [List.cons_append, List.append_assoc] at readBody ⊢
  exact Yields.deeper <|
    readWith.bind (unchanged.bind (.bind (p := (rules (m + 1)).body 0) readBody tail))

end Request.Reads

end SqlLens.Sql
