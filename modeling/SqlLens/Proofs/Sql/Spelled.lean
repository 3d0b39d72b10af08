import SqlLens.Proofs.Sql.Spells

namespace SqlLens.Sql

open SqlLens.Sql.Parser SqlLens.Sql.Lexer

-- A part of a query. What stands to the left of an expression must bind more loosely than `grip`,
-- what stands to its right no more tightly than `reach`.
inductive Part where
  | expr (e : Expr) (grip reach : Nat)
  | item (i : Item)
  | argument (i : Item)
  | order (o : OrderItem)
  | factor (s : Source)
  | source (s : Source)
  | cte (c : Cte)
  | term (b : Body)
  | body (b : Body)
  | query (q : Query)

-- `Spelled part text ts levels`: the text is a spelling of the part, cut into the tokens `ts`. At
-- most `levels` expressions and queries are opened inside each other.
inductive Spelled : Part → String → List Token → Nat → Prop
  -- What is read with few levels is read with more, and what fits in a tight place fits in others.
  | deepen {p text ts k k'} : Spelled p text ts k → k ≤ k' → Spelled p text ts k'
  | loosen {e g h g' h' text ts k} : Spelled (.expr e g h) text ts k → g' ≤ g → h' ≤ h →
    Spelled (.expr e g' h') text ts k
  -- Names and constants.
  | path {w : Word} {ws} : (∀ w' ∈ w :: ws, w'.Spelled) → (∀ w' ∈ w :: ws, w'.isFree) →
    Spelled (.expr (pathExpr w.ident (ws.map Word.ident)) 100 100)
      (".".intercalate ((w :: ws).map Word.text)) (pathTokens ((w :: ws).map Word.token)) ws.length
  | const {c} : isOrdinary c →
    Spelled (.expr (.literal (constLiteral c)) 100 100) (Render.const c) [constToken c] 0
  | parameter {name} : isParameter name →
    Spelled (.expr (.literal (.placeholder name)) 100 100) name [.placeholder name] 0
  -- Operators.
  | nested {e text ts k} : Spelled (.expr e 1 0) text ts k →
    Spelled (.expr (.nested e) 100 100) ("(" ++ text ++ ")") (parenTokens ts) (k + 1)
  | sign {op e g h text ts k} : op ∈ signSymbols → Spelled (.expr e g h) text ts k → 40 < g →
    Spelled (.expr (.unary op e) 100 (min 40 h)) (op ++ " " ++ text) (.symbol op :: ts) (k + 1)
  | negation {e g h text ts k} : Spelled (.expr e g h) text ts k → 15 < g →
    startsExists ts = false →
    Spelled (.expr (.unary "NOT" e) 100 (min 15 h)) ("NOT " ++ text) (.ofWord "NOT" :: ts) (k + 1)
  | dyadic {mk op ots s l lg lh ltext lts lk r rg rh rtext rts rk} : Infix mk op ots s →
    Spelled (.expr l lg lh) ltext lts lk → s ≤ lh → Spelled (.expr r rg rh) rtext rts rk → s < rg →
    Spelled (.expr (mk l r) (min lg s) (min s rh)) (ltext ++ " " ++ op ++ " " ++ rtext)
      (lts ++ (ots ++ rts)) (max lk (rk + 1))
  -- Tests.
  | isNull {e g h text ts k} (negated : Bool) : Spelled (.expr e g h) text ts k → 17 ≤ h →
    Spelled (.expr (.isNull e negated) (min g 17) 100)
      (text ++ " IS " ++ notWord negated ++ "NULL")
      (ts ++ .ofWord "IS" :: (notTokens negated ++ [.ofWord "NULL"])) k
  | isTruth {e g h text ts k word} (negated : Bool) : Spelled (.expr e g h) text ts k → 17 ≤ h →
    word ∈ truthWords →
    Spelled (.expr (.phrase (Phrase.expr e ++ Phrase.words (" IS " ++ notWord negated ++ word)))
        (min g 17) 100)
      (text ++ " IS " ++ notWord negated ++ word)
      (ts ++ .ofWord "IS" :: (notTokens negated ++ [.ofWord word])) k
  | tuple {xs : List (Entry Expr)} {k} : 2 ≤ xs.length →
    (∀ x ∈ xs, Spelled (.expr x.tree 1 0) x.text x.tokens k) →
    Spelled (.expr (.tuple (xs.map (·.tree))) 100 100) ("(" ++ commas (xs.map (·.text)) ++ ")")
      (parenTokens (commaTokens (xs.map (·.tokens)))) (k + 1)
  | among {e g h text ts k ik} {xs : List (Entry Expr)} (negated : Bool) :
    Spelled (.expr e g h) text ts k → 20 ≤ h → xs ≠ [] →
    (∀ x ∈ xs, Spelled (.expr x.tree 1 0) x.text x.tokens ik) →
    startsQuery (commaTokens (xs.map (·.tokens))) = false →
    Spelled (.expr (.inList e (xs.map (·.tree)) negated) (min g 20) 100)
      (text ++ " " ++ notWord negated ++ "IN (" ++ commas (xs.map (·.text)) ++ ")")
      (ts ++ (notTokens negated ++ .ofWord "IN" :: parenTokens (commaTokens (xs.map (·.tokens)))))
      (max k (max (ik + 1) (openings (commaTokens (xs.map (·.tokens))) + 1)))
  | range {e g h text ts k low lg lh ltext lts lk high ug uh utext uts uk} (negated : Bool) :
    Spelled (.expr e g h) text ts k → 20 ≤ h →
    Spelled (.expr low lg lh) ltext lts lk → 20 < lg → 10 ≤ lh →
    Spelled (.expr high ug uh) utext uts uk → 20 < ug →
    Spelled (.expr (.between e negated low high) (min g 20) (min 20 uh))
      (text ++ " " ++ notWord negated ++ "BETWEEN " ++ ltext ++ " AND " ++ utext)
      (ts ++ (notTokens negated ++ .ofWord "BETWEEN" :: (lts ++ .ofWord "AND" :: uts)))
      (max k (max lk uk + 1))
  | quantified {e g h text ts k op r rtext rts rk} (all : Bool) : op ∈ Words.comparisons →
    Spelled (.expr e g h) text ts k → 20 ≤ h → Spelled (.expr r 21 0) rtext rts rk →
    Spelled (.expr (compared all e op r) (min g 20) 100)
      (text ++ " " ++ op ++ " " ++ quantifierWord all ++ "(" ++ rtext ++ ")")
      (ts ++ .symbol op :: .ofWord (quantifierWord all) :: parenTokens rts) (max k (rk + 1))
  -- Queries inside expressions.
  | subquery {q text ts k} : Spelled (.query q) text ts k → Begins (·.beginsQuery) ts →
    Spelled (.expr (.subquery q) 100 100) ("(" ++ text ++ ")") (parenTokens ts) k
  | existence {q text ts k} : Spelled (.query q) text ts k → Begins (·.beginsQuery) ts →
    Spelled (.expr (.exists q false) 100 100) ("EXISTS (" ++ text ++ ")")
      (.ofWord "EXISTS" :: parenTokens ts) k
  | nonexistence {q text ts k} : Spelled (.query q) text ts k → Begins (·.beginsQuery) ts →
    Spelled (.expr (.exists q true) 100 100) ("NOT EXISTS (" ++ text ++ ")")
      (.ofWord "NOT" :: .ofWord "EXISTS" :: parenTokens ts) k
  | amongRows {e g h text ts k q qtext qts qk} (negated : Bool) : Spelled (.expr e g h) text ts k →
    20 ≤ h → Spelled (.query q) qtext qts qk → Begins (·.beginsQuery) qts →
    Spelled (.expr (.inQuery e q negated) (min g 20) 100)
      (text ++ " " ++ notWord negated ++ "IN (" ++ qtext ++ ")")
      (ts ++ (notTokens negated ++ .ofWord "IN" :: parenTokens qts)) (max k qk)
  | quantifiedRows {e g h text ts k op q qtext qts qk} (all : Bool) : op ∈ Words.comparisons →
    Spelled (.expr e g h) text ts k → 20 ≤ h → Spelled (.query q) qtext qts qk →
    Begins (·.beginsQuery) qts →
    Spelled (.expr (compared all e op (.subquery q)) (min g 20) 20)
      (text ++ " " ++ op ++ " " ++ quantifierWord all ++ " (" ++ qtext ++ ")")
      (ts ++ .symbol op :: .ofWord (quantifierWord all) :: parenTokens qts) (max k (qk + 1))
  -- Calls.
  | call {c : Invocation} {k} : c.name.Spelled → c.name.isCallable →
    (∀ x ∈ c.args, Spelled (.argument x.tree) x.text x.tokens k) →
    (∀ x ∈ c.args, leadsArguments x.tokens = false) →
    (∀ x ∈ c.order, Spelled (.order x.tree) x.text x.tokens k) →
    (∀ x ∈ c.within, Spelled (.order x.tree) x.text x.tokens k) →
    (∀ x ∈ c.filter, Spelled (.expr x.tree 1 0) x.text x.tokens k) →
    (∀ w ∈ c.across, ∀ x ∈ w.partition, Spelled (.expr x.tree 1 0) x.text x.tokens k) →
    (∀ w ∈ c.across, ∀ x ∈ w.order, Spelled (.order x.tree) x.text x.tokens k) →
    (c.args = [] → c.distinct = false ∧ c.order = []) →
    Spelled (.expr (.call c.tree) 100 100) c.text c.tokens (k + 1)
  | argument {e text ts k} : Spelled (.expr e 1 0) text ts k → isNamed ts = false →
    Spelled (.argument (.expr e)) text ts (k + 1)
  | starArgument : Spelled (.argument (.star [])) "*" [.symbol "*"] 0
  | namedArgument {w : Word} {e text ts k} : w.Spelled → Spelled (.expr e 1 0) text ts k →
    Spelled (.argument
        (.phrase (Phrase.ident w.ident ++ Phrase.words " => " ++ Phrase.expr e)))
      (w.text ++ " => " ++ text) (w.token :: .symbol "=>" :: ts) (k + 1)
  | order {o : Order} {k} : (∀ x ∈ o.entries, Spelled (.expr x.tree 1 0) x.text x.tokens k) →
    (o.filling.isSome → o.asc.isSome ∨ o.nullsFirst.isSome) →
    Spelled (.order o.tree) o.text o.tokens (k + 1)
  -- Items of a select list.
  | item {e text ts k} : Spelled (.expr e 1 0) text ts k → isBareFrom e = false →
    Spelled (.item (.expr e)) text ts (k + 1)
  | aliased {w : Word} {e text ts k} : w.Spelled → Spelled (.expr e 1 0) text ts k →
    isBareFrom e = false →
    Spelled (.item (.aliased e w.ident)) (text ++ " AS " ++ w.text) (ts ++ [.ofWord "AS", w.token])
      (k + 1)
  | star : Spelled (.item (.star [])) "*" [.symbol "*"] 0
  | starred {w : Word} {ws} : (∀ w' ∈ w :: ws, w'.Spelled) →
    Spelled (.item (.phrase (Phrase.name ((w :: ws).map Word.ident) ++ Phrase.words ".*")))
      (".".intercalate ((w :: ws).map Word.text) ++ ".*")
      (pathTokens ((w :: ws).map Word.token) ++ [.symbol ".", .symbol "*"]) 0
  -- Sources.
  | relation {t : Relation} {k} : (∀ w ∈ t.name :: t.more, w.Spelled) →
    t.name.token.keyword ∉ factorWords →
    (∀ xs ∈ t.args, ∀ x ∈ xs, Spelled (.argument x.tree) x.text x.tokens k) →
    (∀ xs ∈ t.args, ∀ x ∈ xs,
      Begins (fun t => t.isKeyword "SETTINGS" = false ∧ t.isSymbol ")" = false) x.tokens) →
    (∀ a ∈ t.naming, a.Spelled) → Spelled (.factor t.tree) t.text t.tokens k
  | derived {q text ts k} {o : Option Naming} (lateral : Bool) : Spelled (.query q) text ts k →
    (∀ a ∈ o, a.Spelled) →
    Spelled (.factor (.derived lateral q (o.map Naming.tree)))
      ((if lateral then "LATERAL " else "") ++ "(" ++ text ++ ")" ++ namingText o)
      ((if lateral then [.ofWord "LATERAL"] else []) ++ (parenTokens ts ++ namingTokens o)) k
  | enclosed {s text ts k} {o : Option Naming} : Spelled (.source s) text ts k → s.isJoin →
    startsQuery ts = false → openings ts + 1 ≤ k → (∀ a ∈ o, a.Spelled) →
    Spelled (.factor (.nested s (o.map Naming.tree))) ("(" ++ text ++ ")" ++ namingText o)
      (parenTokens ts ++ namingTokens o) k
  | source {s text ts k} : Spelled (.factor s) text ts k → Spelled (.source s) text ts k
  | join {op l ltext lts r rtext rts k} {tie : Tie} : Spelled (.source l) ltext lts k →
    Spelled (.factor r) rtext rts k →
    (∀ x, tie = .on x → Spelled (.expr x.tree 1 0) x.text x.tokens k) →
    (∀ blank ws, tie = .columns blank ws → ws ≠ [] ∧ ∀ w ∈ ws, w.Spelled) → op ≠ .straight →
    (isUntied op → tie = .none) →
    Spelled (.source (.join l false op r tie.tree))
      (ltext ++ " " ++ (if tie.isNatural then "NATURAL " else "") ++ op.keyword ++ " " ++ rtext ++
        tie.text)
      (lts ++ (joinTokens op tie ++ (rts ++ tie.tokens))) (k + 1)
  -- Queries.
  | selection {s : Selection} {k} :
    (∀ xs, s.distinct = .on xs → xs ≠ [] ∧
      ∀ x ∈ xs, Begins (fun t => t.isSymbol ")" = false) x.tokens) →
    (∀ xs, s.distinct = .on xs → ∀ x ∈ xs, Spelled (.expr x.tree 1 0) x.text x.tokens k) →
    s.items ≠ [] → (∀ x ∈ s.items, Spelled (.item x.tree) x.text x.tokens (k + 1)) →
    (∀ x ∈ s.items, Begins (·.beginsItem) x.tokens) →
    (s.from_ = [] → ∀ x ∈ s.items, x.tree.ends = itemStops) →
    (∀ x ∈ s.from_, Spelled (.source x.tree) x.text x.tokens (k + 1)) →
    (∀ x ∈ s.cond, Spelled (.expr x.tree 1 0) x.text x.tokens k) →
    (∀ x ∈ s.groups, Spelled (.expr x.tree 1 0) x.text x.tokens k) →
    (∀ x ∈ s.groups, beginsGroup x.tokens) →
    (∀ x ∈ s.having, Spelled (.expr x.tree 1 0) x.text x.tokens k) →
    Spelled (.term (.select s.tree)) s.text s.tokens (k + 1)
  | group {q text ts k} : Spelled (.query q) text ts k →
    Spelled (.term (.query q)) ("(" ++ text ++ ")") (parenTokens ts) k
  | body {b text ts k} : Spelled (.term b) text ts k → Spelled (.body b) text ts k
  | setOperation {op quantifier l ltext lts r rtext rts k} : op ≠ SetOperator.minus →
    isPlain quantifier → Spelled (.term l) ltext lts k → Spelled (.term r) rtext rts k →
    Spelled (.body (.setOperation op quantifier l r))
      (ltext ++ " " ++ op.keyword ++ quantifier.toText ++ " " ++ rtext)
      (lts ++ .ofWord op.keyword :: (quantifierTokens quantifier ++ rts)) k
  | cte {c : Common} {k} (blank : Bool) : c.name.Spelled → (∀ w ∈ c.columns, w.Spelled) →
    Spelled (.query c.query.tree) c.query.text c.query.tokens k →
    Spelled (.cte c.tree) (c.text blank) c.tokens k
  | query {q : Request} {k} : (∀ x ∈ q.ctes, Spelled (.cte x.tree) x.text x.tokens (k + 1)) →
    (∀ x ∈ q.ctes, Begins (fun t => t.isKeyword "RECURSIVE" = false) x.tokens) →
    (q.ctes = [] → q.recursive = false) →
    Spelled (.body q.body.tree) q.body.text q.body.tokens (k + 1) →
    (∀ x ∈ q.order, Spelled (.order x.tree) x.text x.tokens (k + 1)) →
    (∀ x ∈ q.limit, Spelled (.expr x.tree 1 0) x.text x.tokens k) →
    (∀ x ∈ q.offset, Spelled (.expr x.tree 1 0) x.text x.tokens k) →
    (q.locks ≠ [] → q.body.tree.takesLock) →
    Spelled (.query q.tree) q.text q.tokens (k + 2)

namespace Part

-- What the tokens of a part begin with.
def Shape : Part → List Token → Prop
  | expr _ _ _, ts => Rounded ts
  | term _, ts | body _, ts => Begins (·.beginsBody) ts
  | query _, ts => Begins (·.beginsStatement) ts
  | _, ts => ts ≠ []

-- The parser reads the part from the tokens, in its place.
def Reads (ts : List Token) (k : Nat) : Part → Prop
  | expr e g h => Sql.Reads e ts g h k
  | item i => ReadsBefore selectItem i.ends i ts k
  | argument i => ReadsBefore Parser.argument argumentStops i ts k
  | order o => ReadsBefore orderItem orderStops o ts k
  | factor s => FactorReads s ts k
  | source s => SourceReads s ts k
  | cte c => ReadsBefore Parser.cte [",", "SELECT", "("] c ts k
  | term b => TermReads b ts k
  | body b => BodyReads b ts k
  | query q => ReadsBefore (fun r => r.query) [")", ";"] q ts k

variable {p : Part} {ts : List Token} {k k' : Nat}

theorem Reads.deepen (h : p.Reads ts k) (hk : k ≤ k') : p.Reads ts k' := by
  cases p
  case expr => exact h.weaken le_rfl le_rfl hk
  case factor | source =>
    exact fun m depth ls after hls hm hk' => h m depth ls after hls hm (by omega)
  case term | body =>
    exact fun stops sub lock m depth ls after hls hm hk' =>
      h stops sub lock m depth ls after hls hm (by omega)
  all_goals exact ReadsBefore.weaken h (List.Subset.refl _) hk

theorem Shape.ne_nil (h : p.Shape ts) : ts ≠ [] := by
  cases p
  case expr => exact Rounded.ne_nil h
  case term | body | query =>
    obtain ⟨_, _, e, _⟩ := h
    simp [e]
  all_goals exact h

end Part

section Texts

variable {p : Part} {text : String} {ts : List Token} {k : Nat}

theorem Infix.spells {mk : Expr → Expr → Expr} {op a : String} {s : Nat} {ots : List Token}
    (hi : Infix mk op ots s) (h : Spells a ts) : Spells (op ++ " " ++ a) (ots ++ ts) := by
  cases hi
  case symbol ho => exact h.symbol (.tail _ ho)
  case like caseless negated =>
    have word := h.keyword (if caseless then "ILIKE" else "LIKE") (by cases caseless <;> rfl)
    exact (word.negatable negated).of_eq (by simp [notWord]) (by simp)
  case zone => exact (h.keywords ["AT", "TIME", "ZONE"] rfl).of_eq (by simp) rfl
  all_goals exact h.keyword _ rfl

theorem trails_comparison {op a : String} (ho : op ∈ Words.comparisons) (h : Spells a ts) :
    Trails (" " ++ op ++ " " ++ a) (.symbol op :: ts) :=
  (h.symbol (.tail _ (comparison_mem ho))).trails.of_eq (by simp) rfl

theorem spells_join {op : JoinOperator} {a : String} (hop : op ≠ .straight) (natural : Bool)
    (h : Spells a ts) :
    Spells ((if natural then "NATURAL " else "") ++ op.keyword ++ " " ++ a)
      ((if natural then [.ofWord "NATURAL"] else []) ++ ((joinWords op).map .ofWord ++ ts)) := by
  have words : Spells (op.keyword ++ " " ++ a) ((joinWords op).map .ofWord ++ ts) := by
    have known : (joinWords op).all (isWord .generic) := by
      cases op
      case straight => contradiction
      all_goals rfl
    refine (h.keywords _ known).of_eq ?_ rfl
    cases op <;> simp [JoinOperator.keyword, joinWords]
  cases natural
  case false => exact words.of_eq (by simp) rfl
  case true => exact (words.keyword "NATURAL" rfl).of_eq (by simp) rfl

theorem trails_setQuantifier {quantifier : Quantifier} {a : String} (plain : isPlain quantifier)
    (h : Spells a ts) :
    Trails (quantifier.toText ++ " " ++ a) (quantifierTokens quantifier ++ ts) := by
  cases quantifier
  case none => exact h.trails
  case all => exact (h.keyword "ALL" rfl).trails.of_eq (by simp [Quantifier.toText]) rfl
  case distinct => exact (h.keyword "DISTINCT" rfl).trails.of_eq (by simp [Quantifier.toText]) rfl
  all_goals cases plain

-- The text of a part is cut into its tokens, and they begin like the part.
theorem Spelled.spells (h : Spelled p text ts k) : Spells text ts ∧ p.Shape ts := by
  induction h
  case deepen hi | loosen hi => exact hi
  case path hw free => exact ⟨(leads_path hw).spells, rounded_path hw (free _ (.head _))⟩
  case const hc => exact ⟨spells_const hc, rounded_const _⟩
  case parameter name hn => exact ⟨spells_parameter hn, rounded_const (.param name)⟩
  case nested hi => exact ⟨hi.1.parens, .parens hi.1.smooth⟩
  case sign op _ _ _ _ _ _ ho _ _ hi =>
    have known : op ∈ infixSymbols ∧ (Token.symbol op).opens ∧ op ≠ "(" := by
      revert op
      decide
    exact ⟨hi.1.symbol (.tail _ known.1), .cons hi.1.smooth known.2.1 (by simpa using known.2.2)⟩
  case negation hi =>
    exact ⟨(hi.1.keyword "NOT" rfl).of_eq (by simp) rfl, .cons hi.1.smooth rfl nofun⟩
  case dyadic ho _ _ _ _ hl hr =>
    have behind := (ho.spells hr.1).trails
    refine ⟨(hl.1.append behind).of_eq (by simp) rfl, Rounded.append hl.2 behind.spells.smooth⟩
  case isNull negated _ _ hi =>
    have null := (leads_word "NULL" rfl).spells.negatable negated
    have behind := (null.keyword "IS" rfl).trails
    exact ⟨(hi.1.append behind).of_eq (by simp) rfl, Rounded.append hi.2 behind.spells.smooth⟩
  case isTruth word negated _ _ hw hi =>
    have known : isWord .generic word := by
      revert word
      decide
    have word := (leads_word word known).spells.negatable negated
    have behind := (word.keyword "IS" rfl).trails
    exact ⟨(hi.1.append behind).of_eq (by simp) rfl, Rounded.append hi.2 behind.spells.smooth⟩
  case tuple hi =>
    have items := Spells.commas fun x hx => (hi x hx).1
    exact ⟨items.parens, .parens items.smooth⟩
  case among negated _ _ _ _ _ hi his =>
    have items := Spells.commas fun x hx => (his x hx).1
    have behind := ((items.parens.keyword "IN" rfl).negatable negated).trails
    exact ⟨(hi.1.append behind).of_eq (by simp) rfl, Rounded.append hi.2 behind.spells.smooth⟩
  case range negated _ _ _ _ _ _ _ hi hlow hhigh =>
    have bounds := hlow.1.append (hhigh.1.keyword "AND" rfl).trails
    have behind := ((bounds.keyword "BETWEEN" rfl).negatable negated).trails
    exact ⟨(hi.1.append behind).of_eq (by simp) rfl, Rounded.append hi.2 behind.spells.smooth⟩
  case quantified all ho _ _ _ hi hr =>
    have word : isWord .generic (quantifierWord all) := by cases all <;> rfl
    have behind := trails_comparison ho ((leads_word _ word).parens hr.1)
    exact ⟨(hi.1.append behind).of_eq (by simp) rfl, Rounded.append hi.2 behind.spells.smooth⟩
  case subquery hi => exact ⟨hi.1.parens, .parens hi.1.smooth⟩
  case existence hi =>
    have whole := hi.1.parens.keyword "EXISTS" rfl
    exact ⟨whole.of_eq (by simp) rfl, .cons (.parens hi.1.smooth) rfl nofun⟩
  case nonexistence hi =>
    have whole := hi.1.parens.keywords ["NOT", "EXISTS"] rfl
    exact ⟨whole.of_eq (by simp) rfl, .cons (.cons nofun nofun (.parens hi.1.smooth)) rfl nofun⟩
  case amongRows negated _ _ _ _ hi hq =>
    have behind := ((hq.1.parens.keyword "IN" rfl).negatable negated).trails
    exact ⟨(hi.1.append behind).of_eq (by simp) rfl, Rounded.append hi.2 behind.spells.smooth⟩
  case quantifiedRows all ho _ _ _ _ hi hq =>
    have word : isWord .generic (quantifierWord all) := by cases all <;> rfl
    have behind := trails_comparison ho (hq.1.parens.keyword _ word)
    exact ⟨(hi.1.append behind).of_eq (by simp) rfl, Rounded.append hi.2 behind.spells.smooth⟩
  case call hw callable _ _ _ _ _ _ _ _ args order within filter partition windowOrder =>
    have windows (w : Window) (ho : w ∈ _) : Trails w.text w.tokens :=
      Window.trails (fun x hx => (partition w ho x hx).1) fun x hx => (windowOrder w ho x hx).1
    have whole := Invocation.spells hw (fun x hx => (args x hx).1) (fun x hx => (order x hx).1)
      (fun x hx => (within x hx).1) (fun x hx => (filter x hx).1) windows
    have smooth : Invocation.IsSmooth _ :=
      ⟨fun x hx => (args x hx).1.smooth, fun x hx => (order x hx).1.smooth,
        fun x hx => (within x hx).1.smooth, fun x hx => (filter x hx).1.smooth,
        fun w hw x hx => (partition w hw x hx).1.smooth,
        fun w hw x hx => (windowOrder w hw x hx).1.smooth⟩
    exact ⟨whole, smooth.rounded callable hw⟩
  case argument hi | item hi => exact ⟨hi.1, Rounded.ne_nil hi.2⟩
  case source hi | body hi => exact hi
  case starArgument | star =>
    exact ⟨⟨fun _ _ => .token fun _ => rfl, .cons nofun nofun .nil⟩, by simp [Part.Shape]⟩
  case namedArgument hw _ hi =>
    have arrow : "=>" ∈ "=>" :: infixSymbols := .head _
    have whole := hw.leads.spells.append (hi.1.symbol arrow).trails
    exact ⟨whole.of_eq (by simp) rfl, by simp [Part.Shape]⟩
  case order o k _ _ hi =>
    have key := (hi o.key (.head _)).2.ne_nil
    exact ⟨Order.spells fun x hx => (hi x hx).1, by simp [Part.Shape, Order.tokens, key]⟩
  case aliased hw _ _ hi =>
    have behind := (hw.leads.spells.keyword "AS" rfl).trails
    exact ⟨(hi.1.append behind).of_eq (by simp) rfl, by simp [Part.Shape]⟩
  case starred hw => exact ⟨spells_starred hw, by simp [Part.Shape]⟩
  case relation t k hw _ _ _ ho hi =>
    refine ⟨Relation.spells hw (fun xs hxs x hx => (hi xs hxs x hx).1) ho, ?_⟩
    cases e : t.more <;> simp [Part.Shape, Relation.tokens, pathTokens, e]
  case derived lateral _ ho hi =>
    have whole := hi.1.parens.append (trails_naming ho)
    cases lateral
    case false => exact ⟨whole.of_eq (by simp) rfl, by simp [Part.Shape, parenTokens]⟩
    case true => exact ⟨(whole.keyword "LATERAL" rfl).of_eq (by simp) rfl, by simp [Part.Shape]⟩
  case enclosed _ _ _ ho hi =>
    exact ⟨hi.1.parens.append (trails_naming ho), by simp [Part.Shape, parenTokens]⟩
  case join l ltext lts r rtext rts k tie _ _ _ columns hop untied hl hr htie =>
    have right := hr.1.append
      (Tie.trails (fun x hx => (htie x hx).1) fun b ws h => (columns b ws h).2)
    have behind := (spells_join hop tie.isNatural right).trails
    exact ⟨(hl.1.append behind).of_eq (by simp) (by simp [joinTokens]),
      by simp [Part.Shape, hl.2.ne_nil]⟩
  case cte blank hc columns _ hi =>
    exact ⟨Common.spells hc columns hi.1 blank, by simp [Part.Shape, Common.tokens]⟩
  case selection _ _ _ _ _ _ _ _ _ _ _ distinct items from_ cond groups having =>
    refine ⟨Selection.spells (fun xs e x hx => (distinct xs e x hx).1) (fun x hx => (items x hx).1)
      (fun x hx => (from_ x hx).1) (fun x hx => (cond x hx).1) (fun x hx => (groups x hx).1)
      fun x hx => (having x hx).1, ⟨_, _, rfl, rfl⟩⟩
  case group hi => exact ⟨hi.1.parens, ⟨_, _, rfl, rfl⟩⟩
  case setOperation op quantifier _ _ _ _ _ _ _ hop plain _ _ hl hr =>
    have arm := trails_setQuantifier plain hr.1
    have word : isWord .generic op.keyword := by
      cases op
      case minus => contradiction
      all_goals rfl
    have operator := ((leads_word _ word).spells.append arm).trails
    refine ⟨(hl.1.append operator).of_eq (by simp) rfl, ?_⟩
    obtain ⟨t, ts, e, ht⟩ := hl.2
    exact ⟨t, _, by rw [e]; rfl, ht⟩
  case query q k _ _ _ _ _ _ _ _ ctes body order limit offset =>
    exact ⟨Request.spells (fun x hx => (ctes x hx).1) body.1 (fun x hx => (order x hx).1)
      (fun x hx => (limit x hx).1) fun x hx => (offset x hx).1, q.begins body.2⟩

theorem Spelled.shape (h : Spelled p text ts k) : p.Shape ts := h.spells.2

theorem Spelled.ne_nil (h : Spelled p text ts k) : ts ≠ [] := h.shape.ne_nil

end Texts

section Parsing

variable {p : Part} {text : String} {ts : List Token} {k : Nat}

theorem Spelled.rounded {e : Expr} {g h : Nat} (he : Spelled (.expr e g h) text ts k) : Rounded ts :=
  he.shape

theorem Spelled.enclosable {q : Query} (h : Spelled (.query q) text ts k)
    (read : (Part.query q).Reads ts k) (opens : Begins (·.beginsQuery) ts) : Enclosable q ts k :=
  ⟨ReadsBefore.weaken read (by decide) le_rfl, opens, h.spells.1.smooth⟩

theorem not_all_of_opens {t : Token} (ht : t.opens) : t.isKeyword "ALL" = false := by
  simp [Token.opens, Token.isKeyword] at ht ⊢
  tauto

-- The parser reads a part from the tokens of its spelling.
theorem Spelled.reads (h : Spelled p text ts k) : p.Reads ts k := by
  induction h
  case deepen hk hi => exact hi.deepen hk
  case loosen hg hh hi => exact Reads.weaken hi hg hh le_rfl
  case path hw free => exact reads_path hw free
  case const c _ => exact reads_const c
  case parameter name _ => exact reads_const (.param name)
  case nested he hi => exact Reads.nested hi he.rounded (by decide)
  case sign ho he hg hi => exact Reads.sign ho hi he.rounded hg
  case negation he hg plain hi => exact Reads.negation hi he.rounded hg plain
  case dyadic ho hl hs hr hg il ir => exact Reads.dyadic ho il hl.ne_nil hs ir hr.rounded hg
  case isNull negated he hh hi => exact Reads.isNull negated hi he.ne_nil hh
  case isTruth negated he hh hw hi => exact Reads.isTruth hw negated hi he.ne_nil hh
  case tuple several each hi => exact .tuple several hi fun x hx => (each x hx).rounded
  case among negated he hh filled each plain hi his =>
    exact Reads.among negated hi he.ne_nil hh filled his (fun x hx => (each x hx).rounded) plain
  case range negated he hh hl hlg hlh hu hug hi il iu =>
    exact Reads.range negated hi he.ne_nil hh il hl.rounded hlg hlh iu hu.rounded hug
  case quantified all ho he hh hr hi ir =>
    exact Reads.quantified all ho hi he.ne_nil hh ir hr.rounded (by decide)
  case subquery hq opens iq => exact .subquery (hq.enclosable iq opens)
  case existence hq opens iq => exact .existence (hq.enclosable iq opens)
  case nonexistence hq opens iq => exact .nonexistence (hq.enclosable iq opens)
  case amongRows negated he hh hq opens hi iq =>
    exact Reads.amongRows negated hi he.ne_nil hh (hq.enclosable iq opens)
  case quantifiedRows all ho he hh hq opens hi iq =>
    exact Reads.quantifiedRows all ho hi he.ne_nil hh (hq.enclosable iq opens)
  case call c k hw callable hargs leads horder hwithin hfilter hpartition hwindow bare args order
      within filter partition window =>
    have smooth : c.IsSmooth :=
      ⟨fun x hx => (hargs x hx).spells.1.smooth, fun x hx => (horder x hx).spells.1.smooth,
        fun x hx => (hwithin x hx).spells.1.smooth, fun x hx => (hfilter x hx).spells.1.smooth,
        fun w hw x hx => (hpartition w hw x hx).spells.1.smooth,
        fun w hw x hx => (hwindow w hw x hx).spells.1.smooth⟩
    have windows (w : Window) (hw : w ∈ c.across) : w.Reads (k + 1) := {
      partition := fun x hx => (partition w hw x hx).before (by decide) (by decide)
      order := fun x hx => (window w hw x hx).deepen (Nat.le_succ k)
      partitions := fun x hx => (hpartition w hw x hx).ne_nil
      orders := fun x hx => (hwindow w hw x hx).ne_nil }
    have read : c.Reads (k + 1) := {
      args := fun x hx => (args x hx).deepen (Nat.le_succ k)
      order := fun x hx => (order x hx).deepen (Nat.le_succ k)
      within := fun x hx => (within x hx).deepen (Nat.le_succ k)
      filter := fun x hx => (filter x hx).before (by decide) (by decide)
      across := windows
      orders := fun x hx => (List.mem_append.mp hx).elim (fun hx => (horder x hx).ne_nil)
        fun hx => (hwithin x hx).ne_nil
      filters := fun x hx => (hfilter x hx).ne_nil
      leads := leads
      bare := bare }
    exact read.call hw callable smooth
  case argument he plain hi => exact Reads.argument hi (by decide) he.rounded plain
  case starArgument => exact reads_starArgument
  case namedArgument hw he hi => exact Reads.namedArgument hi (by decide) he.rounded hw
  case order each placed hi => exact Order.reads hi (fun x hx => (each x hx).rounded) placed
  case item he plain hi => exact Reads.item hi (by decide) he.rounded plain
  case aliased hw he plain hi => exact Reads.aliasedItem hi (by decide) he.rounded plain hw
  case star => exact reads_starItem
  case starred hw => exact reads_starredItem hw
  case relation hw plain _ starts naming args =>
    exact Relation.Reads.factor ⟨hw, plain, args, starts, naming⟩
  case derived lateral hq ho iq =>
    exact FactorReads.derived (ReadsBefore.weaken iq (by decide) le_rfl) hq.ne_nil ho lateral
  case enclosed hs join plain hk ho hi => exact FactorReads.nested hi join plain hs.ne_nil hk ho
  case source hi => exact FactorReads.source hi
  case join k tie hl hr hon columns hop untied il ir itie =>
    have tied : tie.Reads (k + 1) :=
      ⟨fun x e => ⟨(hon x e).ne_nil, (itie x e).before (by decide) (by decide)⟩, columns⟩
    have read := SourceReads.join il ir tied hop untied hr.ne_nil
    exact Part.Reads.deepen (p := .source _) read (by omega)
  case cte blank hc columns hq iq =>
    exact Common.reads hc columns (ReadsBefore.weaken iq (by decide) le_rfl) hq.ne_nil
  case selection s k unclosed hdistinct filled hitems begins stars hfrom hcond hgroups plain hhaving
      distinct items from_ cond groups having =>
    have read : s.Reads (k + 1) := {
      distinct := fun xs e => ⟨(unclosed xs e).1, fun x hx =>
        ⟨(distinct xs e x hx).before (by decide) (by decide), (unclosed xs e).2 x hx⟩⟩
      filled := filled
      items := items
      begins := begins
      stars := stars
      from_ := fun x hx => SourceReads.before (from_ x hx)
      cond := fun x hx => (cond x hx).before (by decide) (by decide)
      groups := fun x hx => (groups x hx).group (by decide) (plain x hx) (by decide)
      having := fun x hx => (having x hx).before (by decide) (by decide)
      sources := fun x hx => (hfrom x hx).ne_nil
      conds := fun x hx => (hcond x hx).ne_nil
      all := fun x hx => (hgroups x hx).rounded.begins.imp fun t ht => not_all_of_opens ht
      havings := fun x hx => (hhaving x hx).ne_nil }
    exact read.term
  case group hq iq => exact TermReads.enclosed (ReadsBefore.weaken iq (by decide) le_rfl) hq.ne_nil
  case body hi => exact TermReads.body hi
  case setOperation hop plain _ hr il ir =>
    have read := BodyReads.setOperation il ir _ hop plain hr.shape
    rwa [Nat.max_self] at read
  case query q k hctes named recursive hbody horder hlimit hoffset locks ctes body order limit
      offset =>
    have read : q.Reads (k + 1) := {
      ctes := ctes
      named := named
      recursive := recursive
      body := body
      begins := hbody.shape
      order := order
      orders := fun x hx => (horder x hx).ne_nil
      limit := fun x hx => (limit x hx).before (by decide) (by decide)
      limits := fun x hx => (hlimit x hx).rounded.begins.imp fun t ht => not_all_of_opens ht
      offset := fun x hx => (offset x hx).before (by decide) (by decide)
      offsets := fun x hx => (hoffset x hx).ne_nil
      locks := locks }
    exact read.query

end Parsing

end SqlLens.Sql
