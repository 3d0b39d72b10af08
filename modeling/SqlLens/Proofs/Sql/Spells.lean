import SqlLens.Proofs.Sql.Query

namespace SqlLens.Sql

open SqlLens.Sql.Lexer

-- The text is cut into the tokens in front of what may stand behind an operand. None of them is a
-- bracket.
structure Spells (text : String) (ts : List Token) : Prop where
  cuts : ∀ rest, EndsOperand rest → Cuts .generic text.toList ts rest
  smooth : Smooth ts

-- The same also in front of a point or a parenthesis.
structure Leads (text : String) (ts : List Token) : Prop where
  cuts : ∀ rest, EndsWord rest → Cuts .generic text.toList ts rest
  smooth : Smooth ts

-- The same for a text that is empty or has a blank in front.
structure Trails (text : String) (ts : List Token) : Prop where
  spells : Spells text ts
  apart : ∀ c ∈ text.toList.head?, c = ' '

variable {α : Type} {a b op : String} {ts ts' : List Token} {rest : List Char} {w : Word}
  {ws : List Word} {xs : List (Entry α)} {words : List String} {c : Constant}

section Texts

theorem endsOperand_cons {c : Char} (hc : c ∈ [' ', ')', ',', ';']) : EndsOperand (c :: rest) := by
  rintro x ⟨⟩
  exact hc

namespace Leads

theorem spells (h : Leads a ts) : Spells a ts := ⟨fun rest hr => h.cuts rest hr.endsWord, h.smooth⟩

theorem parens (h : Leads a ts) (h' : Spells b ts') :
    Spells (a ++ "(" ++ b ++ ")") (ts ++ parenTokens ts') := by
  refine ⟨fun rest _ => ?_, h.smooth.append (.parens h'.smooth)⟩
  have closed := (h'.cuts (')' :: rest) (endsOperand_cons (by decide))).append .closing
  have inside : Cuts .generic ('(' :: (b.toList ++ [')'])) (parenTokens ts') rest :=
    Cuts.opening.append closed
  have front := h.cuts ('(' :: (b.toList ++ [')']) ++ rest) (by simp [EndsWord])
  simpa using front.append inside

end Leads

theorem leads_word (word : String) (hw : isWord .generic word) : Leads word [.ofWord word] :=
  ⟨fun _ hr => cuts_word hw hr, .cons nofun nofun .nil⟩

theorem Word.Spelled.leads (hw : w.Spelled) : Leads w.text [w.token] := by
  refine ⟨fun rest hr _ => ⟨_, (hw.scans rest hr).cutsFrom⟩, ?_⟩
  have ⟨_, word⟩ := hw.word
  exact .cons (by rw [word]; nofun) (by rw [word]; nofun) .nil

theorem leads_path (hw : ∀ w' ∈ w :: ws, w'.Spelled) :
    Leads (".".intercalate ((w :: ws).map Word.text)) (pathTokens ((w :: ws).map Word.token)) := by
  refine ⟨fun _ hr => cuts_path (by simp) hw hr, unbracketed_path hw, ?_⟩
  have ⟨_, word⟩ := (hw w (.head _)).word
  cases ws <;> simp [pathTokens, word]

theorem spells_starred (hw : ∀ w' ∈ w :: ws, w'.Spelled) :
    Spells (".".intercalate ((w :: ws).map Word.text) ++ ".*")
      (pathTokens ((w :: ws).map Word.token) ++ [.symbol ".", .symbol "*"]) := by
  have path := leads_path hw
  refine ⟨fun rest _ => ?_, ?_⟩
  · have star : Cuts .generic ['*'] [.symbol "*"] rest := .token fun _ => rfl
    have point : Cuts .generic ['.'] [.symbol "."] ('*' :: rest) := .token fun _ => rfl
    simpa using (path.cuts ('.' :: '*' :: rest) (by simp [EndsWord])).append (point.append star)
  · refine ⟨by simpa using path.smooth.unbracketed, ?_⟩
    obtain ⟨_, word⟩ := (hw w (.head _)).word
    cases ws <;> simp [pathTokens, word]

namespace Spells

-- The lexer leaves the tokens and the end of the text behind them.
theorem exists_lexemes (h : Spells a ts) : ∃ ls last, lex .generic a = .ok (ls ++ [last]) ∧
    ls.map (·.token) = ts ∧ last.token = .eof := by
  have ⟨whole, cut, tokens⟩ := lex_of_cuts (h.cuts [] (by simp [EndsOperand]))
  obtain ⟨ls, behind, rfl, hls, hbehind⟩ := List.map_eq_append_iff.mp tokens
  obtain ⟨last, rfl, hlast⟩ := List.map_eq_singleton_iff.mp hbehind
  exact ⟨ls, last, cut, hls, hlast⟩

theorem nil : Spells "" [] := ⟨fun _ _ => .nil, .nil⟩

theorem parens (h : Spells a ts) : Spells ("(" ++ a ++ ")") (parenTokens ts) := by
  have empty : Leads "" [] := ⟨fun _ _ => .nil, .nil⟩
  simpa using empty.parens h

theorem append (h : Spells a ts) (h' : Trails b ts') : Spells (a ++ b) (ts ++ ts') := by
  refine ⟨fun rest hr => ?_, h.smooth.append h'.spells.smooth⟩
  have behind : EndsOperand (b.toList ++ rest) := by
    intro c hc
    cases e : b.toList
    case nil =>
      rw [e] at hc
      exact hr c hc
    case cons c' cs =>
      rw [e] at hc
      obtain rfl : c' = c := by simpa using hc
      rw [h'.apart c' (by simp [e])]
      decide
  rw [String.toList_append]
  exact (h.cuts _ behind).append (h'.spells.cuts rest hr)

-- Behind a blank.
theorem trails (h : Spells a ts) : Trails (" " ++ a) ts := by
  refine ⟨⟨fun rest hr => ?_, h.smooth⟩, by simp⟩
  have blank : Cuts .generic [' '] [] (a.toList ++ rest) := .blank
  simpa using blank.append (h.cuts rest hr)

-- The text and the tokens in another form.
theorem of_eq (h : Spells a ts) (text : b.toList = a.toList) (tokens : ts' = ts) :
    Spells b ts' := by
  have text : b = a := String.toList_inj.mp text
  rwa [text, tokens]

-- Behind a word, with a blank between them.
theorem keyword (word : String) (hw : isWord .generic word) (h : Spells a ts) :
    Spells (word ++ " " ++ a) (.ofWord word :: ts) :=
  ((leads_word word hw).spells.append h.trails).of_eq (by simp) rfl

theorem keywords (words : List String) (hw : words.all (isWord .generic)) (h : Spells a ts) :
    Spells (String.join (words.map (· ++ " ")) ++ a) (words.map .ofWord ++ ts) := by
  induction words
  case nil => simpa using h
  case cons word words hi =>
    have ⟨first, others⟩ := Bool.and_eq_true_iff.mp hw
    exact ((hi others).keyword word first).of_eq (by simp) rfl

theorem negatable (negated : Bool) (h : Spells a ts) :
    Spells (notWord negated ++ a) (notTokens negated ++ ts) := by
  cases negated
  case false => simpa [notWord, notTokens] using h
  case true => exact (h.keyword "NOT" rfl).of_eq (by simp [notWord]) rfl

theorem symbol (ho : op ∈ "=>" :: infixSymbols) (h : Spells a ts) :
    Spells (op ++ " " ++ a) (.symbol op :: ts) := by
  refine ⟨fun rest hr => ?_, ?_⟩
  · have cut {c : Char} {cs : List Char}
        (scanned : ∀ prev rest,
          scan .generic prev c (cs ++ ' ' :: rest) = .ok (.token (.symbol op), ' ' :: rest)) :
        Cuts .generic (c :: cs) [.symbol op] (' ' :: (a.toList ++ rest)) :=
      .token fun prev => scanned prev _
    have first : Cuts .generic op.toList [.symbol op] (' ' :: (a.toList ++ rest)) := by
      fin_cases ho <;> exact cut fun _ _ => rfl
    have behind : Cuts .generic (' ' :: a.toList) ts rest := by
      simpa using h.trails.spells.cuts rest hr
    simpa using first.append behind
  · refine .cons ?_ ?_ h.smooth
    all_goals
      rintro ⟨⟩
      revert ho
      decide

-- Texts with a mark and a blank between them.
theorem separated {mark : Char} {sep s : String} (blank : sep.toList = [mark, ' '])
    (ends : mark ∈ [' ', ')', ',', ';']) (cut : ∀ rest, Cuts .generic [mark] [.symbol s] rest)
    (point : s ≠ ".") (bracket : s ≠ "[") (each : ∀ x ∈ xs, Spells x.text x.tokens) :
    Spells (sep.intercalate (xs.map (·.text)))
      ([Token.symbol s].intercalate (xs.map (·.tokens))) := by
  refine ⟨fun rest hr => ?_, .separated (by simpa using point) (by simpa using bracket)
    (by simpa using fun x hx => (each x hx).smooth)⟩
  induction xs
  case nil => exact .nil
  case cons x xs hi =>
    have ⟨first, others⟩ := List.forall_mem_cons.mp each
    by_cases last : xs = []
    case pos =>
      subst last
      simpa [List.intercalate] using first.cuts rest hr
    case neg =>
      have behind := (cut _).append (Cuts.blank.append (hi others))
      have whole := (first.cuts _ (endsOperand_cons ends)).append behind
      have texts : xs.map (·.text) ≠ [] := by simpa using last
      have tokens : xs.map (·.tokens) ≠ [] := by simpa using last
      simpa [blank, String.intercalate_cons_of_ne_nil texts, List.intercalate_cons_of_ne_nil tokens]
        using whole

theorem commas (each : ∀ x ∈ xs, Spells x.text x.tokens) :
    Spells (commas (xs.map (·.text))) (commaTokens (xs.map (·.tokens))) :=
  separated rfl (by decide) (fun _ => .comma) (by decide) (by decide) each

theorem semicolons (each : ∀ x ∈ xs, Spells x.text x.tokens) :
    Spells ("; ".intercalate (xs.map (·.text)))
      ([Token.symbol ";"].intercalate (xs.map (·.tokens))) :=
  have cut (rest : List Char) : Cuts .generic [';'] [.symbol ";"] rest := .token fun _ => rfl
  separated rfl (by decide) cut (by decide) (by decide) each

end Spells

namespace Trails

theorem nil : Trails "" [] := ⟨.nil, by simp⟩

theorem append (h : Trails a ts) (h' : Trails b ts') : Trails (a ++ b) (ts ++ ts') := by
  refine ⟨h.spells.append h', fun c hc => ?_⟩
  rw [String.toList_append, List.head?_append] at hc
  cases e : a.toList.head?
  case none => exact h'.apart c (by simpa [e] using hc)
  case some => exact h.apart c (by simpa [e] using hc)

theorem of_eq (h : Trails a ts) (text : b.toList = a.toList) (tokens : ts' = ts) :
    Trails b ts' := ⟨h.spells.of_eq text tokens, text ▸ h.apart⟩

-- A clause behind its words, if there is one.
theorem clause (word : String) (words : List String) {o : Option (Entry α)}
    (each : ∀ x ∈ o, Spells x.text x.tokens) (hw : words.all (isWord .generic))
    (e : (word ++ " ").toList = (String.join (words.map (· ++ " "))).toList) :
    Trails (clauseText word (o.map (·.text))) (clauseTokens words (o.map (·.tokens))) := by
  cases o
  case none => exact .nil
  case some x =>
    have behind := ((each x rfl).keywords words hw).trails
    exact behind.of_eq (by simp [clauseText, ← e]) rfl

-- A list behind some words, if it has any items.
theorem listClause (word : String) (words : List String)
    (each : ∀ x ∈ xs, Spells x.text x.tokens) (hw : words.all (isWord .generic))
    (e : (word ++ " ").toList = (String.join (words.map (· ++ " "))).toList) :
    Trails (clauseText word (listText? xs)) (clauseTokens words (listTokens? xs)) := by
  cases xs
  case nil => exact .nil
  case cons x xs =>
    let whole : Entry Unit :=
      ⟨(), commas ((x :: xs).map (·.text)), commaTokens ((x :: xs).map (·.tokens))⟩
    have each : ∀ y ∈ some whole, Spells y.text y.tokens := by
      rintro _ ⟨⟩
      exact .commas each
    exact clause word words each hw e

end Trails

end Texts

section Constants

theorem spells_const (hc : isOrdinary c) : Spells (Render.const c) [constToken c] :=
  ⟨fun _ hr => cuts_const hc hr, (rounded_const c).smooth⟩

-- A parameter of a statement: a question mark with a number behind it, or a dollar sign with a name.
def isParameter (name : String) : Prop :=
  ∃ mark cs, name.toList = mark :: cs ∧ (mark = '?' ∧ (∀ c ∈ cs, Text.isAsciiDigit c) ∨
    mark = '$' ∧ ∀ c ∈ cs, isAlphanumeric c || c == '_')

theorem spells_parameter {name : String} (hn : isParameter name) :
    Spells name [.placeholder name] := by
  refine ⟨fun rest hr => ?_, .cons nofun nofun .nil⟩
  obtain ⟨mark, cs, e, ⟨rfl, each⟩ | ⟨rfl, each⟩⟩ := hn
  all_goals
    rw [e, ← String.ofList_toList (s := name), e]
    apply Cuts.token
    intro prev
  case inl =>
    have scanned : scan .generic prev '?' (cs ++ rest) =
        .ok (.token (.placeholder (.ofList ('?' :: ((cs ++ rest).span Text.isAsciiDigit).1))),
          ((cs ++ rest).span Text.isAsciiDigit).2) := rfl
    rw [scanned, span_digits each hr]
  case inr =>
    have scanned : scan .generic prev '$' (cs ++ rest) = dollar .generic (cs ++ rest) := rfl
    have ends (mark : Char) (hm : mark ∈ rest.head?) :
        (isAlphanumeric mark || mark == '_' || (false && mark == '$')) = false ∧ mark ≠ '$' := by
      have := hr mark hm
      fin_cases this <;> decide
    have param : dollar.param .generic (cs ++ rest) =
        .ok (.token (.placeholder (.ofList ('$' :: cs))), rest) := by
      have tagged : (cs ++ rest).span (fun c => isAlphanumeric c || c == '_' ||
          (Dialect.generic.hasDollarParams && c == '$')) = (cs, rest) :=
        span_of_ends (by simpa [show Dialect.generic.hasDollarParams = false from rfl] using each)
          fun c hc => (ends c hc).1
      unfold dollar.param
      rw [tagged]
      dsimp only
      split
      case h_1 => exact absurd rfl (ends '$' rfl).2
      case h_2 => rfl
    have first : (cs ++ rest).head? ≠ some '$' := by
      cases cs
      case nil => exact fun e => (ends '$' e).2 rfl
      case cons c cs =>
        rintro ⟨⟩
        exact absurd (each '$' (.head _)) (by decide)
    rw [scanned]
    unfold dollar
    split
    case h_1 e => simp [e] at first
    case h_2 => exact param

end Constants

section Parts

theorem spells_words (hws : ∀ w ∈ ws, w.Spelled) :
    Spells (commas (ws.map Word.text)) (commaTokens (ws.map fun w => [w.token])) := by
  let entry (w : Word) : Entry Unit := ⟨(), w.text, [w.token]⟩
  have each : ∀ x ∈ ws.map entry, Spells x.text x.tokens := by
    rw [List.forall_mem_map]
    exact fun w hw => (hws w hw).leads.spells
  have whole := Spells.commas each
  rwa [List.map_map, List.map_map] at whole

-- Columns in parentheses, if there are any, behind a text that is `before` or nothing.
theorem Naming.Spelled.trails {a : Naming} (ha : a.Spelled) : Trails a.text a.tokens := by
  have columns : Trails (if a.columns.isEmpty then "" else
      " (" ++ commas (a.columns.map Word.text) ++ ")") (columnTokens a.columns) := by
    unfold columnTokens
    split
    case isTrue => exact .nil
    case isFalse => exact (spells_words ha.columns).parens.trails.of_eq (by simp) rfl
  have named := ha.name.leads.spells.append columns
  unfold text tokens
  cases a.explicit
  case false => exact named.trails.of_eq (by simp) rfl
  case true => exact (named.keyword "AS" rfl).trails.of_eq (by simp) rfl

theorem trails_naming {o : Option Naming} (ho : ∀ a ∈ o, a.Spelled) :
    Trails (namingText o) (namingTokens o) := by
  cases o
  case none => exact .nil
  case some a => exact (ho a rfl).trails

theorem Filling.trails {f : Filling} (each : ∀ x ∈ f.entries, Spells x.text x.tokens) :
    Trails f.text f.tokens := by
  simp only [entries, List.mem_append, Option.mem_toList] at each
  have start := Trails.clause "FROM" ["FROM"] (o := f.start)
    (fun x hx => each x (.inl (.inl hx))) rfl rfl
  have stop := Trails.clause "TO" ["TO"] (o := f.stop)
    (fun x hx => each x (.inl (.inr hx))) rfl rfl
  have step := Trails.clause "STEP" ["STEP"] (o := f.step)
    (fun x hx => each x (.inr hx)) rfl rfl
  have words : Trails " WITH FILL" [.ofWord "WITH", .ofWord "FILL"] :=
    ((leads_word "FILL" rfl).spells.keyword "WITH" rfl).trails.of_eq (by simp) rfl
  exact (words.append (start.append (stop.append step))).of_eq (by simp [text]) rfl

theorem Order.spells {o : Order} (each : ∀ x ∈ o.entries, Spells x.text x.tokens) :
    Spells o.text o.tokens := by
  have ⟨key, others⟩ := List.forall_mem_cons.mp each
  have asc : Trails (orderSuffix o.asc none) (ascTokens o.asc) := by
    obtain _ | _ | _ := o.asc
    case none => exact .nil
    case some.false => exact (leads_word "DESC" rfl).spells.trails.of_eq rfl rfl
    case some.true => exact (leads_word "ASC" rfl).spells.trails.of_eq rfl rfl
  have nulls : Trails (orderSuffix none o.nullsFirst) (nullsTokens o.nullsFirst) := by
    obtain _ | first := o.nullsFirst
    case none => exact .nil
    case some =>
      have word : isWord .generic (if first then "FIRST" else "LAST") := by cases first <;> rfl
      have place := ((leads_word _ word).spells.keyword "NULLS" rfl).trails
      cases first <;> exact place.of_eq rfl rfl
  have filling : Trails ((o.filling.map Filling.text).getD "")
      ((o.filling.map Filling.tokens).getD []) := by
    cases e : o.filling
    case none => exact .nil
    case some f => exact f.trails (by simpa [e] using others)
  have whole := key.append (asc.append (nulls.append filling))
  exact whole.of_eq (by simp [text, orderSuffix]) rfl

theorem Window.trails {w : Window} (partition : ∀ x ∈ w.partition, Spells x.text x.tokens)
    (order : ∀ x ∈ w.order, Spells x.text x.tokens) : Trails w.text w.tokens := by
  have ordered := Trails.listClause "ORDER BY" ["ORDER", "BY"] order rfl rfl
  have inside : Spells (" ".intercalate (Render.clause "PARTITION BY" (listText? w.partition) ++
      Render.clause "ORDER BY" (listText? w.order)))
      (clauseTokens ["PARTITION", "BY"] (listTokens? w.partition) ++
        clauseTokens ["ORDER", "BY"] (listTokens? w.order)) := by
    cases e : w.partition
    case nil =>
      cases e' : w.order
      case nil => exact .nil
      case cons =>
        rw [e'] at order
        exact ((Spells.commas order).keywords ["ORDER", "BY"] rfl).of_eq
          (by simp [Render.clause, listText?]) rfl
    case cons =>
      rw [e] at partition
      have first := (Spells.commas partition).keywords ["PARTITION", "BY"] rfl
      refine (first.append ordered).of_eq ?_ rfl
      cases w.order <;> simp [Render.clause, listText?, clauseText]
  exact (inside.parens.keyword "OVER" rfl).trails.of_eq (by simp [text]) rfl

theorem Invocation.spells {c : Invocation} (name : c.name.Spelled)
    (args : ∀ x ∈ c.args, Spells x.text x.tokens) (order : ∀ x ∈ c.order, Spells x.text x.tokens)
    (within : ∀ x ∈ c.within, Spells x.text x.tokens)
    (filter : ∀ x ∈ c.filter, Spells x.text x.tokens)
    (across : ∀ w ∈ c.across, Trails w.text w.tokens) : Spells c.text c.tokens := by
  have args := (Spells.commas args).append
    (.listClause "ORDER BY" ["ORDER", "BY"] order rfl rfl)
  have arguments : Spells ((if c.distinct then "DISTINCT " else "") ++ commas (c.args.map (·.text)) ++
      clauseText "ORDER BY" (listText? c.order)) c.argumentTokens := by
    unfold argumentTokens
    cases c.distinct
    case false => exact args.of_eq (by simp) rfl
    case true => exact (args.keyword "DISTINCT" rfl).of_eq (by simp) rfl
  have within : Trails (if c.within.isEmpty then ""
      else " WITHIN GROUP (ORDER BY " ++ commas (c.within.map (·.text)) ++ ")") c.withinTokens := by
    unfold withinTokens
    cases e : c.within
    case nil => exact .nil
    case cons x xs =>
      rw [e] at within
      have items := (Spells.commas within).keywords ["ORDER", "BY"] rfl
      have whole := items.parens.keywords ["WITHIN", "GROUP"] rfl
      exact whole.trails.of_eq (by simp) rfl
  have filter : Trails ((c.filter.map fun x => " FILTER (WHERE " ++ x.text ++ ")").getD "")
      c.filterTokens := by
    unfold filterTokens
    cases e : c.filter
    case none => exact .nil
    case some x =>
      have whole := ((filter x e).keyword "WHERE" rfl).parens.keyword "FILTER" rfl
      exact whole.trails.of_eq (by simp) rfl
  have across : Trails ((c.across.map Window.text).getD "") ((c.across.map Window.tokens).getD []) := by
    cases e : c.across
    case none => exact .nil
    case some w => exact across w e
  have whole := (name.leads.parens arguments).append (within.append (filter.append across))
  exact whole.of_eq (by cases e : c.filter <;> simp [text, e]) (by simp [tokens, behindTokens])

theorem Relation.spells {t : Relation} (words : ∀ w ∈ t.name :: t.more, w.Spelled)
    (args : ∀ xs ∈ t.args, ∀ x ∈ xs, Spells x.text x.tokens) (naming : ∀ a ∈ t.naming, a.Spelled) :
    Spells t.text t.tokens := by
  have path := leads_path words
  have named := trails_naming naming
  unfold text tokens argumentTokens
  cases e : t.args
  case none => exact (path.spells.append named).of_eq (by simp) rfl
  case some xs =>
    exact ((path.parens (.commas (args xs e))).append named).of_eq (by simp) (by simp)

theorem Tie.trails {tie : Tie} (on : ∀ x, tie = .on x → Spells x.text x.tokens)
    (columns : ∀ blank ws, tie = .columns blank ws → ∀ w ∈ ws, w.Spelled) :
    Trails tie.text tie.tokens := by
  cases tie
  case none | natural => exact .nil
  case on x => exact ((on x rfl).keyword "ON" rfl).trails.of_eq (by simp [text]) rfl
  case columns blank ws =>
    have names := spells_words (columns blank ws rfl)
    cases blank
    case false => exact ((leads_word "USING" rfl).parens names).trails.of_eq (by simp [text]) rfl
    case true => exact (names.parens.keyword "USING" rfl).trails.of_eq (by simp [text]) rfl

theorem Distinction.trails {d : Distinction}
    (on : ∀ xs, d = .on xs → ∀ x ∈ xs, Spells x.text x.tokens) : Trails d.text d.tokens := by
  cases d
  case none => exact .nil
  case plain => exact (leads_word "DISTINCT" rfl).spells.trails.of_eq rfl rfl
  case on xs =>
    have whole := (Spells.commas (on xs rfl)).parens.keywords ["DISTINCT", "ON"] rfl
    exact whole.trails.of_eq (by simp [text_on]) rfl

theorem Selection.spells {s : Selection}
    (distinct : ∀ xs, s.distinct = .on xs → ∀ x ∈ xs, Spells x.text x.tokens)
    (items : ∀ x ∈ s.items, Spells x.text x.tokens) (from_ : ∀ x ∈ s.from_, Spells x.text x.tokens)
    (cond : ∀ x ∈ s.cond, Spells x.text x.tokens) (groups : ∀ x ∈ s.groups, Spells x.text x.tokens)
    (having : ∀ x ∈ s.having, Spells x.text x.tokens) : Spells s.text s.tokens := by
  have from_ := Trails.listClause "FROM" ["FROM"] from_ rfl rfl
  have cond := Trails.clause "WHERE" ["WHERE"] cond rfl rfl
  have groups := Trails.listClause "GROUP BY" ["GROUP", "BY"] groups rfl rfl
  have having := Trails.clause "HAVING" ["HAVING"] having rfl rfl
  have behind := (Spells.commas items).trails.append
    (from_.append (cond.append (groups.append having)))
  have whole := (leads_word "SELECT" rfl).spells.append ((Distinction.trails distinct).append behind)
  exact whole.of_eq (by simp [text_def]) rfl

theorem Common.spells {c : Common} (name : c.name.Spelled) (columns : ∀ w ∈ c.columns, w.Spelled)
    (query : Spells c.query.text c.query.tokens) (blank : Bool) :
    Spells (c.text blank) c.tokens := by
  have query := (query.parens.keyword "AS" rfl).trails
  unfold text tokens columnTokens
  cases e : c.columns
  case nil => exact (name.leads.spells.append query).of_eq (by simp) (by simp)
  case cons w ws =>
    rw [e] at columns
    have names := spells_words columns
    cases blank
    case false =>
      exact ((name.leads.parens names).append query).of_eq (by simp) (by simp)
    case true =>
      exact (name.leads.spells.append (names.parens.trails.append query)).of_eq (by simp) (by simp)

theorem Request.spells {q : Request} (ctes : ∀ x ∈ q.ctes, Spells x.text x.tokens)
    (body : Spells q.body.text q.body.tokens) (order : ∀ x ∈ q.order, Spells x.text x.tokens)
    (limit : ∀ x ∈ q.limit, Spells x.text x.tokens)
    (offset : ∀ x ∈ q.offset, Spells x.text x.tokens) : Spells q.text q.tokens := by
  have order := Trails.listClause "ORDER BY" ["ORDER", "BY"] order rfl rfl
  have limit := Trails.clause "LIMIT" ["LIMIT"] limit rfl rfl
  have offset := Trails.clause "OFFSET" ["OFFSET"] offset rfl rfl
  have locks : Trails (String.join (q.locks.map fun x => " FOR " ++ x.word))
      (q.locks.map Lock.tokens).flatten := by
    induction q.locks
    case nil => exact .nil
    case cons x xs hi =>
      have word : isWord .generic x.word := by cases x <;> rfl
      have first := ((leads_word _ word).spells.keyword "FOR" rfl).trails
      exact (first.append hi).of_eq (by simp) rfl
  have behind := body.append (order.append (limit.append (offset.append locks)))
  unfold text tokens withTokens
  cases e : q.ctes
  case nil => exact behind.of_eq (by simp) rfl
  case cons x xs =>
    rw [e] at ctes
    have whole := (Spells.commas ctes).append behind.trails
    cases q.recursive
    case false => exact (whole.keyword "WITH" rfl).of_eq (by simp) rfl
    case true =>
      exact (whole.keywords ["WITH", "RECURSIVE"] rfl).of_eq (by simp) rfl

end Parts

end SqlLens.Sql
