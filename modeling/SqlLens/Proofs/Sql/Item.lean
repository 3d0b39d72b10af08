import SqlLens.Proofs.Sql.Clause
import SqlLens.Proofs.Sql.Leaf

namespace SqlLens.Sql

open SqlLens.Sql.Parser

variable {depth m k g h : Nat} {l l' : Lexeme} {ls rest after : List Lexeme} {r : Rules}
  {t : Token} {ts : List Token} {e : Expr} {id : Ident} {ids : List Ident} {w : Word}
  {ws : List Word} {stops : List String}

section Stars

theorem qualifiedStar_eq_none (rest : List Lexeme) (hts : Unstarred ts)
    (hls : ls.map (·.token) = ts) (hl : l.token.isSymbol "." = false) (parts : Name) :
    qualifiedStar ((ls ++ l :: rest).drop 1) parts = .ok none := by
  induction hts generalizing ls parts
  case last ts hts =>
    obtain ⟨first, ls, rfl, -, hls⟩ := List.map_eq_cons_iff.mp hls
    have unpointed {x : Lexeme} {xs : List Lexeme} (e : ls ++ l :: rest = x :: xs) :
        x.token.isSymbol "." = false := by
      cases ls
      case nil =>
        cases e
        exact hl
      case cons =>
        cases e
        rw [← hls] at hts
        cases point : x.token.isSymbol "."
        case false => rfl
        case true => simp [Token.eq_of_isSymbol point] at hts
    rw [List.cons_append, List.drop_one, List.tail_cons]
    unfold qualifiedStar
    split
    case h_1 e => simp [unpointed e]
    case h_2 => rfl
  case more text k q ts _ hi =>
    obtain ⟨first, ls, rfl, -, hls⟩ := List.map_eq_cons_iff.mp hls
    obtain ⟨dot, ls, rfl, hdot, hls⟩ := List.map_eq_cons_iff.mp hls
    have behind := hi hls
    obtain ⟨word, ls, rfl, hword, hls⟩ := List.map_eq_cons_iff.mp hls
    have point : dot.token.isSymbol "." := hdot ▸ rfl
    simp only [List.cons_append, List.drop_one, List.tail_cons] at behind ⊢
    rw [qualifiedStar]
    simp only [point, if_true, hword]
    exact behind _

-- An expression where a star may stand.
theorem yields_starOrExpr (hts : Rounded ts) (hls : ls.map (·.token) = ts)
    (hafter : Stops stops after) (apart : "." ∉ stops)
    (read : Yields (r.expr 0) depth (ls ++ after) e after) :
    Yields (starOrExpr r) depth (ls ++ after) (.expr e) after := by
  obtain ⟨l, rest, rfl, hl⟩ := hafter
  have point : l.token.isSymbol "." = false := Token.isSymbol_of_isAmong hl apart
  have scan (parts : Name) := qualifiedStar_eq_none rest hts.unstarred hls point parts
  obtain ⟨first, ls, rfl, opens⟩ := hts.exists_cons hls
  have star : first.token.isSymbol "*" = false := by
    simp only [Token.opens, Bool.and_eq_true, Bool.not_eq_true'] at opens
    exact opens.1.2
  simp only [List.cons_append, List.drop_one, List.tail_cons] at scan read ⊢
  generalize ls ++ l :: rest = more at scan read ⊢
  have item : Yields (do return Item.expr (← r.expr 0)) depth (first :: more) (.expr e)
      (l :: rest) := read.bind .pure
  refine yields_lexeme.bind ?_
  split
  case h_1 | h_2 =>
    refine yields_get.bind ?_
    rw [List.drop_one, List.tail_cons, scan]
    exact item
  case h_3 => exact (yields_no_symbol star).bind item

-- Names with points between them and a star behind them.
inductive Starred : List Lexeme → List Ident → List Lexeme → Prop
  | last {dot star rest} : dot.token = .symbol "." → star.token = .symbol "*" →
    Starred (dot :: star :: rest) [] rest
  | more {dot l : Lexeme} {id : Ident} {k ls ids rest} : dot.token = .symbol "." →
    l.token = .word id.text k id.quote → Starred ls ids rest →
    Starred (dot :: l :: ls) (id :: ids) rest

theorem Starred.qualifiedStar (h : Starred ls ids rest) (parts : Name) :
    qualifiedStar ls parts = .ok (some (parts.reverse ++ ids, rest)) := by
  induction h generalizing parts
  case last hdot hstar => simp [Parser.qualifiedStar, hdot, hstar, Token.isSymbol]
  case more id k ls ids rest hdot hl _ hi =>
    obtain ⟨text, quote⟩ := id
    rw [Parser.qualifiedStar]
    simp [hdot, hl, Token.isSymbol, hi]

theorem yields_starOrExpr_starred (hl : l.token = .word id.text k' id.quote)
    (h : Starred ls ids rest) :
    Yields (starOrExpr r) depth (l :: ls) (.phrase (Phrase.name (id :: ids) ++ Phrase.words ".*"))
      rest := by
  refine yields_lexeme.bind ?_
  rw [hl]
  refine yields_get.bind ?_
  rw [List.drop_one, List.tail_cons, h.qualifiedStar]
  rfl

theorem yields_starOrExpr_star (hl : l.token = .symbol "*") :
    Yields (starOrExpr r) depth (l :: l' :: ls) (.star []) (l' :: ls) := by
  obtain ⟨t, p, g⟩ := l
  cases hl
  rfl

end Stars

section Items

-- What an item of a select list stands in front of.
def itemStops : List String :=
  [",", ")", ";", "FROM", "WHERE", "GROUP", "HAVING", "ORDER", "LIMIT", "OFFSET", "UNION", "EXCEPT",
    "INTERSECT"]

-- Behind a star `EXCEPT` would leave out columns.
def Item.ends : Item → List String
  | .expr _ | .aliased _ _ => itemStops
  | .star _ | .phrase _ => [",", "FROM"]

-- A select list does not begin with the keyword where an item may.
def isBareFrom : Expr → Bool
  | .ident ⟨text, none⟩ => Text.asciiLower text == "from"
  | _ => false

theorem no_columnAlias (hafter : Stops itemStops after) :
    Yields columnAlias? depth after none after := by
  have unmarked : Yields (keyword? "AS") depth after false after := hafter.no_keyword (by decide)
  obtain ⟨l, rest, rfl, hl⟩ := hafter
  refine unmarked.bind (yields_lexeme.bind ?_)
  unfold Token.isAmong at hl
  split at hl
  case h_1 e | h_2 e =>
    rw [e]
    rfl
  case h_3 text k e =>
    rw [Bool.and_eq_true, List.contains_iff_mem] at hl
    have refused : Words.columnStops.contains k := by
      obtain ⟨hl, letters⟩ := hl
      fin_cases hl
      all_goals first | rfl | cases letters
    rw [e]
    simp only [refused]
    rfl
  case h_4 => cases hl

theorem yields_selectItem_expr (plain : isBareFrom e = false)
    (read : Yields (starOrExpr r) depth ls (.expr e) after) (hafter : Stops itemStops after) :
    Yields (selectItem r) depth ls (.expr e) after := by
  refine read.bind ?_
  dsimp only
  split
  case h_1 text =>
    simp only [isBareFrom] at plain
    simp only [plain, Bool.false_eq_true, if_false]
    exact (no_columnAlias hafter).bind .pure
  case h_2 => exact (no_columnAlias hafter).bind .pure

theorem yields_selectItem_aliased (plain : isBareFrom e = false) (hl : l.token = .ofWord "AS")
    (hl' : l'.token = .word id.text k' id.quote)
    (read : Yields (starOrExpr r) depth ls (.expr e) (l :: l' :: after))
    (hafter : ∃ l rest, after = l :: rest) :
    Yields (selectItem r) depth ls (.aliased e id) after := by
  obtain ⟨l'', rest, rfl⟩ := hafter
  have named : Yields columnAlias? depth (l :: l' :: l'' :: rest) (some id) (l'' :: rest) := by
    refine (yields_keyword (by rw [hl]; rfl) (by decide)).bind (yields_lexeme.bind ?_)
    have more : l'.token.isEof = false := hl' ▸ rfl
    rw [hl']
    exact (yields_skip more).bind .pure
  refine read.bind ?_
  dsimp only
  split
  case h_1 text =>
    simp only [isBareFrom] at plain
    simp only [plain, Bool.false_eq_true, if_false]
    exact named.bind .pure
  case h_2 => exact named.bind .pure

theorem no_starOptions (depth : Nat) (hafter : Stops [",", "FROM"] after) :
    Yields (starOptions r) depth after [] after := by
  have no {k : String} (hk : k ∉ ["", ",", "FROM"]) :
      Yields (peekKeyword k) depth after false after := hafter.no_peekKeyword hk
  refine yields_dialect.bind ?_
  refine Yields.bind (a := []) ((no (by decide)).bind .pure) ?_
  refine Yields.bind (a := []) ((no (by decide)).bind .pure) ?_
  refine Yields.bind (a := []) ((no (by decide)).bind .pure) ?_
  refine Yields.bind (a := []) ((no (by decide)).bind .pure) ?_
  exact Yields.bind (a := []) ((no (by decide)).bind .pure) .pure

theorem Reads.item (he : Reads e ts g h k) (hg : 0 < g) (hts : Rounded ts)
    (plain : isBareFrom e = false) : ReadsBefore selectItem itemStops (.expr e) ts (k + 1) := by
  intro m depth ls after hls hm hk hafter
  have read := he.before hg (by decide : itemStops ⊆ clauseStops) m depth ls after hls hm hk hafter
  exact yields_selectItem_expr plain (yields_starOrExpr hts hls hafter (by decide) read) hafter

theorem Reads.aliasedItem (he : Reads e ts g h k) (hg : 0 < g) (hts : Rounded ts)
    (plain : isBareFrom e = false) (hw : w.Spelled) :
    ReadsBefore selectItem itemStops (.aliased e w.ident) (ts ++ [.ofWord "AS", w.token])
      (k + 1) := by
  intro m depth ls after hls hm hk hafter
  obtain ⟨here, behind, rfl, hhere, hbehind⟩ := List.map_eq_append_iff.mp hls
  obtain ⟨l, behind, rfl, hl, hbehind⟩ := List.map_eq_cons_iff.mp hbehind
  obtain ⟨l', rfl, hl'⟩ := List.map_eq_singleton_iff.mp hbehind
  have ⟨keyword, word⟩ := hw.word
  have marked : Stops ["AS"] (l :: l' :: after) := ⟨l, _, rfl, by rw [hl]; rfl⟩
  have read := he.before hg (by decide : ["AS"] ⊆ clauseStops) m depth here _ hhere
    (by simp at hm; omega) hk marked
  have item := yields_starOrExpr hts hhere marked (by decide) read
  obtain ⟨l'', rest, rfl, -⟩ := hafter
  simpa using yields_selectItem_aliased plain hl (hl'.trans word) item ⟨l'', rest, rfl⟩

theorem reads_starItem : ReadsBefore selectItem [",", "FROM"] (.star []) [.symbol "*"] 0 := by
  intro m depth ls after hls hm hk hafter
  obtain ⟨l, rfl, hl⟩ := List.map_eq_singleton_iff.mp hls
  have options := no_starOptions (r := rules m) depth hafter
  obtain ⟨l', rest, rfl, -⟩ := hafter
  exact (yields_starOrExpr_star hl).bind (options.bind .pure)

theorem exists_starred (hw : ∀ w' ∈ w :: ws, w'.Spelled)
    (hls : ls.map (·.token) =
      pathTokens ((w :: ws).map Word.token) ++ [.symbol ".", .symbol "*"]) :
    ∃ l k ls', ls = l :: ls' ∧ l.token = .word w.ident.text k w.ident.quote ∧
      Starred (ls' ++ after) (ws.map Word.ident) after := by
  have ⟨⟨k, word⟩, others⟩ := (List.forall_mem_cons.mp hw).imp_left Word.Spelled.word
  induction ws generalizing w k ls
  case nil =>
    obtain ⟨l, ls, rfl, hl, hls⟩ := List.map_eq_cons_iff.mp hls
    obtain ⟨dot, ls, rfl, hdot, hls⟩ := List.map_eq_cons_iff.mp hls
    obtain ⟨star, rfl, hstar⟩ := List.map_eq_singleton_iff.mp hls
    exact ⟨l, k, _, rfl, hl.trans word, .last hdot hstar⟩
  case cons w' ws hi =>
    obtain ⟨l, ls, rfl, hl, hls⟩ := List.map_eq_cons_iff.mp hls
    obtain ⟨dot, ls, rfl, hdot, hls⟩ := List.map_eq_cons_iff.mp hls
    have ⟨⟨k', word'⟩, others'⟩ := (List.forall_mem_cons.mp others).imp_left Word.Spelled.word
    obtain ⟨l', k'', ls, rfl, hl', starred⟩ := hi others hls k' word' others'
    exact ⟨l, k, _, rfl, hl.trans word, .more hdot hl' starred⟩

theorem reads_starredItem (hw : ∀ w' ∈ w :: ws, w'.Spelled) :
    ReadsBefore selectItem [",", "FROM"]
      (.phrase (Phrase.name ((w :: ws).map Word.ident) ++ Phrase.words ".*"))
      (pathTokens ((w :: ws).map Word.token) ++ [.symbol ".", .symbol "*"]) 0 := by
  intro m depth ls after hls hm hk hafter
  obtain ⟨l, k, ls, rfl, hl, starred⟩ := exists_starred hw hls
  have options := no_starOptions (r := rules m) depth hafter
  refine (yields_starOrExpr_starred hl starred).bind (options.bind ?_)
  rw [List.append_nil]
  exact .pure

end Items

section Arguments

-- What an argument of a call stands in front of.
def argumentStops : List String := [",", ")", "ORDER"]

-- Whether the second token makes the first one the name of an argument.
def isNamed : List Token → Bool
  | _ :: t :: _ => t.isKeyword "VALUE" || t.isSymbol "=>" || t.isSymbol ":="
  | _ => false

-- An argument with a name in front of it.
def namedArgument (r : Rules) : Parser (List Piece) := do
  let label ← (do return Phrase.ident (← ident))
  let sign ← argumentSign
  let value ← starOrExpr r
  return label ++ Phrase.words (" " ++ sign ++ " ") ++ Phrase.item value

theorem yields_argument_of_fails {i : Item} (fails : Fails (namedArgument r) depth ls)
    (read : Yields (starOrExpr r) depth ls i after) : Yields (argument r) depth ls i after := by
  have unnamed : Yields (attempt (namedArgument r)) depth ls none ls := fails.attempt
  refine yields_dialect.bind (.bind (p := attempt (namedArgument r)) unnamed ?_)
  exact read

theorem fails_argumentSign (value : l.token.isKeyword "VALUE" = false)
    (arrow : l.token.isSymbol "=>" = false) (assign : l.token.isSymbol ":=" = false) :
    Fails argumentSign depth (l :: ls) := by
  have ⟨rest, taken⟩ := exists_next depth l ls
  refine .bind_right yields_dialect (.bind_right (yields_no_keyword value) (.bind_right taken ?_))
  split
  case h_1 e => simp [e, Token.isSymbol] at arrow
  case h_2 e => simp [e, Token.isSymbol] at assign
  all_goals exact fails_expectedAt _ _

theorem fails_namedArgument (hts : ts ≠ []) (hls : ls.map (·.token) = ts)
    (plain : isNamed ts = false) (hafter : Stops argumentStops after) :
    Fails (namedArgument r) depth (ls ++ after) := by
  obtain ⟨l, ls, rfl⟩ := List.exists_cons_of_ne_nil (by rintro rfl; exact hts hls.symm : ls ≠ [])
  obtain ⟨l', more, e, value, arrow, assign⟩ : ∃ l' more, ls ++ after = l' :: more ∧
      l'.token.isKeyword "VALUE" = false ∧ l'.token.isSymbol "=>" = false ∧
      l'.token.isSymbol ":=" = false := by
    cases ls
    case nil =>
      obtain ⟨l', rest, rfl, hl'⟩ := hafter
      exact ⟨l', rest, rfl, Token.isKeyword_of_isAmong hl' (by decide),
        Token.isSymbol_of_isAmong hl' (by decide), Token.isSymbol_of_isAmong hl' (by decide)⟩
    case cons l' ls =>
      subst hls
      simp only [List.map_cons, isNamed, Bool.or_eq_false_iff] at plain
      exact ⟨l', ls ++ after, rfl, plain.1.1, plain.1.2, plain.2⟩
  rw [List.cons_append, e]
  cases named : Ident.ofToken? l.token
  case none =>
    have ⟨rest, taken⟩ := exists_next depth l (l' :: more)
    have unread : Fails ident depth (l :: l' :: more) := by
      refine .bind_right taken ?_
      rw [named]
      exact fails_expectedAt _ _
    exact .bind_left (.bind_left unread)
  case some id =>
    have more' : l.token.isEof = false := by
      cases e : l.token
      case eof => simp [e, Ident.ofToken?] at named
      all_goals rfl
    have read : Yields ident depth (l :: l' :: more) id (l' :: more) := by
      refine (yields_next more').bind ?_
      rw [named]
      exact .pure
    exact .bind_right (read.bind .pure) (fails_argumentSign value arrow assign).bind_left

theorem Reads.argument (he : Reads e ts g h k) (hg : 0 < g) (hts : Rounded ts)
    (plain : isNamed ts = false) :
    ReadsBefore Parser.argument argumentStops (.expr e) ts (k + 1) := by
  intro m depth ls after hls hm hk hafter
  have read := he.before hg (by decide : argumentStops ⊆ clauseStops) m depth ls after hls hm hk
    hafter
  exact yields_argument_of_fails (fails_namedArgument hts.ne_nil hls plain hafter)
    (yields_starOrExpr hts hls hafter (by decide) read)

theorem reads_starArgument : ReadsBefore argument argumentStops (.star []) [.symbol "*"] 0 := by
  intro m depth ls after hls hm hk hafter
  have unnamed : Fails (namedArgument (rules m)) depth (ls ++ after) :=
    fails_namedArgument (by simp) hls rfl hafter
  obtain ⟨l, rfl, hl⟩ := List.map_eq_singleton_iff.mp hls
  obtain ⟨l', rest, rfl, -⟩ := hafter
  exact yields_argument_of_fails unnamed (yields_starOrExpr_star hl)

theorem Reads.namedArgument (he : Reads e ts g h k) (hg : 0 < g) (hts : Rounded ts)
    (hw : w.Spelled) :
    ReadsBefore Parser.argument argumentStops
      (.phrase (Phrase.ident w.ident ++ Phrase.words " => " ++ Phrase.expr e))
      (w.token :: .symbol "=>" :: ts) (k + 1) := by
  intro m depth ls after hls hm hk hafter
  obtain ⟨l, ls, rfl, hl, hls⟩ := List.map_eq_cons_iff.mp hls
  obtain ⟨p, gap, ls, rfl, hls'⟩ := exists_lexemes hls
  have ⟨keyword, word⟩ := hw.word
  have read := he.before hg (by decide : argumentStops ⊆ clauseStops) m depth ls after hls'
    (by simp at hm; omega) hk hafter
  have value := yields_starOrExpr hts hls' hafter (by decide) read
  obtain ⟨l', ls, rfl, -⟩ := hts.exists_cons hls'
  have sign : Yields argumentSign depth (⟨.symbol "=>", p, gap⟩ :: l' :: (ls ++ after)) "=>"
      (l' :: (ls ++ after)) := rfl
  have label : Yields ident depth (l :: ⟨.symbol "=>", p, gap⟩ :: l' :: (ls ++ after)) w.ident
      (⟨.symbol "=>", p, gap⟩ :: l' :: (ls ++ after)) := yields_ident (hl.trans word)
  have named : Yields (Sql.namedArgument (rules m)) depth
      (l :: ⟨.symbol "=>", p, gap⟩ :: l' :: (ls ++ after))
      (Phrase.ident w.ident ++ Phrase.words " => " ++ Phrase.expr e) after := by
    refine Yields.bind (a := Phrase.ident w.ident) (label.bind .pure) ?_
    exact sign.bind (value.bind .pure)
  exact yields_dialect.bind (named.attempt.bind .pure)

end Arguments

section Orders

-- What an item of an order stands in front of.
def orderStops : List String := [",", ")", ";", "LIMIT", "OFFSET", "FOR"]

-- How gaps between sorted values are filled.
structure Filling where
  start : Option (Entry Expr) := none
  stop  : Option (Entry Expr) := none
  step  : Option (Entry Expr) := none

-- An item of an order with its text.
structure Order where
  key        : Entry Expr
  asc        : Option Bool := none
  nullsFirst : Option Bool := none
  filling    : Option Filling := none

namespace Filling

def entries (f : Filling) : List (Entry Expr) := f.start.toList ++ f.stop.toList ++ f.step.toList

def pieces (f : Filling) : List Piece :=
  Phrase.words " WITH FILL" ++ Phrase.option " FROM " Phrase.expr (f.start.map (·.tree)) ++
    Phrase.option " TO " Phrase.expr (f.stop.map (·.tree)) ++
    Phrase.option " STEP " Phrase.expr (f.step.map (·.tree))

def text (f : Filling) : String :=
  " WITH FILL" ++ clauseText "FROM" (f.start.map (·.text)) ++
    clauseText "TO" (f.stop.map (·.text)) ++ clauseText "STEP" (f.step.map (·.text))

def tokens (f : Filling) : List Token :=
  .ofWord "WITH" :: .ofWord "FILL" :: (clauseTokens ["FROM"] (f.start.map (·.tokens)) ++
    (clauseTokens ["TO"] (f.stop.map (·.tokens)) ++
      clauseTokens ["STEP"] (f.step.map (·.tokens))))

end Filling

def ascTokens : Option Bool → List Token
  | some asc => [.ofWord (if asc then "ASC" else "DESC")]
  | none => []

def nullsTokens : Option Bool → List Token
  | some first => [.ofWord "NULLS", .ofWord (if first then "FIRST" else "LAST")]
  | none => []

namespace Order

def entries (o : Order) : List (Entry Expr) := o.key :: (o.filling.map Filling.entries).getD []

def tree (o : Order) : OrderItem :=
  ⟨o.key.tree, o.asc, o.nullsFirst, (o.filling.map Filling.pieces).getD []⟩

def text (o : Order) : String :=
  o.key.text ++ orderSuffix o.asc o.nullsFirst ++ (o.filling.map Filling.text).getD ""

def tokens (o : Order) : List Token :=
  o.key.tokens ++ (ascTokens o.asc ++ (nullsTokens o.nullsFirst ++
    (o.filling.map Filling.tokens).getD []))

end Order

theorem yields_sortDirection (depth : Nat) {asc : Option Bool}
    (hls : ls.map (·.token) = ascTokens asc)
    (hafter : Stops ("NULLS" :: "WITH" :: orderStops) after) :
    Yields sortDirection depth (ls ++ after) asc after := by
  cases asc
  case none =>
    obtain rfl := List.map_eq_nil_iff.mp hls
    exact (hafter.no_oneOf (by decide)).bind .pure
  case some asc =>
    obtain ⟨p, gap, rfl⟩ := exists_lexeme hls
    obtain ⟨l, rest, rfl, -⟩ := hafter
    cases asc <;> rfl

theorem yields_nullsPlace (depth : Nat) {first : Option Bool}
    (hls : ls.map (·.token) = nullsTokens first) (hafter : Stops ("WITH" :: orderStops) after) :
    Yields nullsPlace depth (ls ++ after) first after := by
  cases first
  case none =>
    obtain rfl := List.map_eq_nil_iff.mp hls
    exact (hafter.no_keywords (by decide)).bind ((hafter.no_keywords (by decide)).bind .pure)
  case some first =>
    obtain ⟨p, gap, ls, rfl, hls'⟩ := exists_lexemes hls
    obtain ⟨p', gap', rfl⟩ := exists_lexeme hls'
    cases first <;> rfl

theorem Filling.yields_fill {f : Filling} (each : ∀ x ∈ f.entries, Reads x.tree x.tokens 1 0 k)
    (shape : ∀ x ∈ f.entries, Rounded x.tokens) (hls : ls.map (·.token) = f.tokens)
    (hm : 4 * ls.length + 1 ≤ m) (hk : k + 1 ≤ depth) (hafter : Stops orderStops after) :
    Yields (fill (rules m)) depth (ls ++ after) f.pieces after := by
  obtain ⟨p, gap, ls, rfl, hls'⟩ := exists_lexemes hls
  obtain ⟨p', gap', ls, rfl, hls''⟩ := exists_lexemes hls'
  obtain ⟨start, ls, rfl, hstart, hls⟩ := List.map_eq_append_iff.mp hls''
  obtain ⟨stop, step, rfl, hstop, hstep⟩ := List.map_eq_append_iff.mp hls
  simp only [entries, List.mem_append, Option.mem_toList] at each shape
  have stepStops := hafter.clause hstep rfl rfl
  have stopStops := stepStops.clause hstop rfl rfl
  have before {x : Entry Expr} {stops : List String} (hx : (x ∈ f.start ∨ x ∈ f.stop) ∨ x ∈ f.step)
      (sub : stops ⊆ clauseStops) : ReadsBefore (fun r => r.expr 0) stops x.tree x.tokens (k + 1) :=
    (each x hx).before (by simp) sub
  have first := yields_after "FROM" (m := m)
    (fun x hx => before (.inl (.inl hx)) (by decide))
    (fun x hx => (shape x (.inl (.inl hx))).ne_nil) rfl hstart (by simp at hm; omega) hk stopStops
    (by decide)
  have second := yields_after "TO" (m := m)
    (fun x hx => before (.inl (.inr hx)) (by decide))
    (fun x hx => (shape x (.inl (.inr hx))).ne_nil) rfl hstop (by simp at hm; omega) hk stepStops
    (by decide)
  have third := yields_after "STEP" (m := m)
    (fun x hx => before (.inr hx) (by decide)) (fun x hx => (shape x (.inr hx)).ne_nil)
    rfl hstep (by simp at hm; omega) hk hafter (by decide)
  have words : Yields (keywords? ["WITH", "FILL"]) depth
      (⟨.ofWord "WITH", p, gap⟩ :: ⟨.ofWord "FILL", p', gap'⟩ :: (start ++ (stop ++ step) ++ after))
      true (start ++ (stop ++ step) ++ after) := rfl
  rw [List.append_assoc, List.append_assoc] at words
  rw [List.cons_append, List.cons_append, List.append_assoc, List.append_assoc]
  exact yields_dialect.bind (words.bind (first.bind (second.bind (third.bind .pure))))

theorem stops_filling {f : Option Filling}
    (hls : ls.map (·.token) = (f.map Filling.tokens).getD []) (hafter : Stops orderStops after) :
    Stops ("WITH" :: orderStops) (ls ++ after) := by
  cases f
  case none =>
    obtain rfl := List.map_eq_nil_iff.mp hls
    exact hafter.mono (List.subset_cons_self _ _)
  case some f =>
    obtain ⟨p, gap, ls, rfl, -⟩ := exists_lexemes hls
    exact ⟨_, _, rfl, rfl⟩

theorem stops_nulls {first : Option Bool} (hls : ls.map (·.token) = nullsTokens first)
    (hafter : Stops stops after) : Stops ("NULLS" :: stops) (ls ++ after) := by
  cases first
  case none =>
    obtain rfl := List.map_eq_nil_iff.mp hls
    exact hafter.mono (List.subset_cons_self _ _)
  case some first =>
    obtain ⟨p, gap, ls, rfl, -⟩ := exists_lexemes hls
    exact ⟨_, _, rfl, rfl⟩

-- Only behind a direction or a place for nulls the words for gaps are no part of the key.
theorem Order.stops_key {o : Order} {asc nulls filling : List Lexeme}
    (placed : o.filling.isSome → o.asc.isSome ∨ o.nullsFirst.isSome)
    (hasc : asc.map (·.token) = ascTokens o.asc)
    (hnulls : nulls.map (·.token) = nullsTokens o.nullsFirst)
    (hfilling : filling.map (·.token) = (o.filling.map Filling.tokens).getD [])
    (hafter : Stops orderStops after) :
    Stops ("ASC" :: "DESC" :: "NULLS" :: orderStops) (asc ++ (nulls ++ (filling ++ after))) := by
  cases direction : o.asc
  case some up =>
    rw [direction] at hasc
    obtain ⟨p, gap, rfl⟩ := exists_lexeme hasc
    cases up <;> exact ⟨_, _, rfl, rfl⟩
  case none =>
    rw [direction] at hasc
    obtain rfl := List.map_eq_nil_iff.mp hasc
    cases place : o.nullsFirst
    case some first =>
      rw [place] at hnulls
      obtain ⟨p, gap, ls, rfl, -⟩ := exists_lexemes hnulls
      exact ⟨_, _, rfl, rfl⟩
    case none =>
      rw [place] at hnulls
      obtain rfl := List.map_eq_nil_iff.mp hnulls
      cases gaps : o.filling
      case none =>
        rw [gaps] at hfilling
        obtain rfl := List.map_eq_nil_iff.mp hfilling
        exact hafter.mono (List.subset_append_right ["ASC", "DESC", "NULLS"] _)
      case some => simp [direction, place, gaps] at placed

theorem Order.reads {o : Order} (each : ∀ x ∈ o.entries, Reads x.tree x.tokens 1 0 k)
    (shape : ∀ x ∈ o.entries, Rounded x.tokens)
    (placed : o.filling.isSome → o.asc.isSome ∨ o.nullsFirst.isSome) :
    ReadsBefore orderItem orderStops o.tree o.tokens (k + 1) := by
  intro m depth ls after hls hm hk hafter
  obtain ⟨key, ls, rfl, hkey, hls⟩ := List.map_eq_append_iff.mp hls
  obtain ⟨asc, ls, rfl, hasc, hls⟩ := List.map_eq_append_iff.mp hls
  obtain ⟨nulls, filling, rfl, hnulls, hfilling⟩ := List.map_eq_append_iff.mp hls
  have ⟨first, others⟩ := List.forall_mem_cons.mp each
  have ⟨start, shapes⟩ := List.forall_mem_cons.mp shape
  have fillStops : Stops ("WITH" :: orderStops) (filling ++ after) :=
    stops_filling hfilling hafter
  have nullsStops : Stops ("NULLS" :: "WITH" :: orderStops) (nulls ++ (filling ++ after)) :=
    stops_nulls hnulls fillStops
  have keyStops : Stops ("ASC" :: "DESC" :: "NULLS" :: orderStops)
      (asc ++ (nulls ++ (filling ++ after))) :=
    Order.stops_key placed hasc hnulls hfilling hafter
  have keyRead := first.before (by simp) (by decide) m depth key _ hkey (by simp at hm; omega) hk
    keyStops
  have direction := yields_sortDirection depth hasc nullsStops
  have place := yields_nullsPlace depth hnulls fillStops
  have gaps : Yields (fill (rules m)) depth (filling ++ after)
      ((o.filling.map Filling.pieces).getD []) after := by
    cases e : o.filling
    case none =>
      rw [e] at hfilling
      obtain rfl := List.map_eq_nil_iff.mp hfilling
      exact yields_dialect.bind ((hafter.no_keywords (by decide)).bind .pure)
    case some f =>
      rw [e] at hfilling others shapes
      exact f.yields_fill others shapes hfilling (by simp at hm; omega) hk hafter
  rw [List.append_assoc, List.append_assoc, List.append_assoc]
  exact keyRead.bind (direction.bind (place.bind (gaps.bind .pure)))

end Orders

end SqlLens.Sql
