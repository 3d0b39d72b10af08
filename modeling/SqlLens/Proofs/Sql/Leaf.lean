import SqlLens.Proofs.Sql.Name
import SqlLens.Render.Basic

namespace SqlLens.Sql

open SqlLens.Sql.Parser SqlLens.Sql.Lexer

section Words

-- A name: its text, the token that the text is cut into, and what is read from that.
structure Word where
  text  : String
  token : Token
  ident : Ident

namespace Word

structure Spelled (w : Word) : Prop where
  word : ∃ keyword, w.token = .word w.ident.text keyword w.ident.quote
  begins : ∃ c cs, w.text.toList = c :: cs ∧ (startsWord c ∨ c = '\x22')
  scans : ∀ rest, EndsWord rest → Scans .generic w.text.toList w.token rest

-- The word is a name wherever an operand may stand.
def isFree (w : Word) : Bool := !(formWords ++ Words.nameStops).contains w.token.keyword

-- A name as the renderer writes it.
def ofName (name : String) : Word where
  text  := Render.quoteIdent name
  token := nameToken name
  ident := if Render.isPlain name then ⟨name, none⟩ else ⟨name, some '\x22'⟩

variable {w : Word} {name : String}

theorem spelled_ofName (name : String) : (ofName name).Spelled := by
  refine ⟨?_, ?_, fun rest hr => scans_quoteIdent (.inl rfl) hr name⟩
  · simp only [ofName, nameToken]
    split <;> exact ⟨_, rfl⟩
  · have ⟨c, cs, e, hc⟩ := exists_quoteIdent name
    refine ⟨c, cs, e, hc.imp_left fun hc => ?_⟩
    simp only [Render.startsPlain, startsWord, Text.isAsciiLetter, Render.isLowercase,
      Bool.or_eq_true] at hc ⊢
    tauto

@[simp] theorem token_ofName (name : String) : (ofName name).token = nameToken name := rfl

@[simp] theorem folded_ofName (name : String) : (ofName name).ident.folded = name := by
  unfold ofName
  split
  case isTrue plain => exact lower_of_isPlain plain
  case isFalse => rfl

theorem isFree_ofName : (ofName name).isFree ↔ (nameToken name).keyword ∉ Words.nameStops := by
  have plain := keyword_nameToken name
  simp [isFree, ofName, plain]

end Word

-- The tokens of names with points between them.
def pathTokens : List Token → List Token
  | [] => []
  | [t] => [t]
  | t :: more => t :: .symbol "." :: pathTokens more

end Words

section Paths

-- `Dotted ls ids rest`: points, each with a name behind it, and then no point.
inductive Dotted : List Lexeme → List Ident → List Lexeme → Prop
  | nil {l : Lexeme} {rest} : l.token.isSymbol "." = false → Dotted (l :: rest) [] (l :: rest)
  | cons {dot l : Lexeme} {id : Ident} {k ls ids rest} : dot.token = .symbol "." →
    l.token = .word id.text k id.quote → Dotted ls ids rest →
    Dotted (dot :: l :: ls) (id :: ids) rest

variable {depth m : Nat} {l l' : Lexeme} {ls rest : List Lexeme} {r : Rules} {id : Ident}
  {ids : List Ident} {k : String}

namespace Dotted

theorem exists_cons (h : Dotted ls ids rest) : ∃ l ls', ls = l :: ls' := by
  cases h <;> exact ⟨_, _, rfl⟩

theorem yields_ident (hl : l.token = .word id.text k id.quote) (h : Dotted ls ids rest) :
    Yields ident depth (l :: ls) id ls := by
  obtain ⟨l', ls, rfl⟩ := h.exists_cons
  exact Parser.yields_ident hl

-- The names are read as one name.
theorem yields_name (depth : Nat) (hl : l.token = .word id.text k id.quote)
    (h : Dotted ls ids rest) : Yields name depth (l :: ls) (id :: ids) rest := by
  let step (items : List Ident) : Parser (Option (List Ident)) := do
    if ← symbol? "." then return some ((← ident) :: items) else return none
  have loop (acc : List Ident) :
      Relation.ReflTransGen (Advances step depth) (acc, ls) (ids.reverse ++ acc, rest) := by
    clear hl
    induction h generalizing acc
    case nil => exact .refl
    case cons dot l' id' k ls ids rest hdot hl' h hi =>
      have first : Advances step depth (acc, dot :: l' :: ls) (id' :: acc, ls) :=
        ⟨(yields_symbol hdot).bind ((yields_ident hl' h).bind .pure), by grind⟩
      rw [List.reverse_cons, List.append_assoc]
      exact .head first (hi _)
  have stop (items : List Ident) : Yields (step items) depth rest none rest := by
    clear loop hl
    induction h
    case nil point => exact (yields_no_symbol point).bind .pure
    case cons hi => exact hi
  have names := yields_repeated (loop [id]) (stop _)
  refine (yields_ident hl h).bind (names.bind ?_)
  simpa using .pure

end Dotted

-- The same, where all names are free and an operand may end behind them.
inductive FreePath : List Lexeme → List Ident → List Lexeme → Prop
  | nil {l : Lexeme} {rest} : l.token.follows → FreePath (l :: rest) [] (l :: rest)
  | cons {dot l : Lexeme} {id : Ident} {ls ids rest} : dot.token = .symbol "." →
    l.token.Names id → FreePath ls ids rest → FreePath (dot :: l :: ls) (id :: ids) rest

namespace FreePath

theorem dotted (h : FreePath ls ids rest) : Dotted ls ids rest := by
  induction h
  case nil hl => exact .nil (Token.isSymbol_of_isAmong hl (by decide))
  case cons hdot hl _ hi =>
    have ⟨k, word⟩ := hl.word
    exact .cons hdot word hi

theorem exists_quiet (h : FreePath ls ids rest) : ∃ l ls', ls = l :: ls' ∧ l.token.quiet := by
  cases h
  case nil hl => exact ⟨_, _, rfl, Token.isAmong_mono (List.subset_cons_self _ _) hl⟩
  case cons hdot _ _ => exact ⟨_, _, rfl, by rw [hdot]; rfl⟩

theorem exists_follows (h : FreePath ls ids rest) :
    ∃ l rest', rest = l :: rest' ∧ l.token.follows := by
  induction h
  case nil hl => exact ⟨_, _, rfl, hl⟩
  case cons hi => exact hi

theorem customType_outcome (depth : Nat) (hl : l.token.Names id) (h : FreePath ls ids rest) :
    ∃ type l' rest, Yields customType depth (l :: ls) type (l' :: rest) ∧
      l'.token ≠ .symbol "[" := by
  have ⟨k, word⟩ := hl.word
  have named := h.dotted.yields_name depth word
  obtain ⟨l', rest, rfl, hl'⟩ := h.exists_follows
  have stops : Stops followStops (l' :: rest) := ⟨l', rest, rfl, hl'⟩
  have bracket : l'.token.isSymbol "[" = false := Token.isSymbol_of_isAmong hl' (by decide)
  have words : Yields typeModifiers depth (l' :: rest) [] (l' :: rest) :=
    (stops.no_symbol (by decide)).bind .pure
  exact ⟨_, l', rest, named.bind (words.bind .pure), Token.ne_of_isSymbol bracket⟩

theorem yields_prefixExpr (hl : l.token.Names id) (h : FreePath ls ids rest) :
    Yields (prefixExpr r) depth (l :: ls) (.ident id) ls := by
  have custom := customType_outcome depth hl h
  obtain ⟨l', ls, rfl, hl'⟩ := h.exists_quiet
  exact yields_prefixExpr_name hl hl' (.inr custom)

theorem length_le (h : FreePath ls ids rest) : rest.length ≤ ls.length := by
  induction h
  case nil => simp
  case cons hi =>
    simp only [List.length_cons]
    omega

end FreePath

-- The expression that names in a row are.
def pathExpr (id : Ident) : List Ident → Expr
  | [] => .ident id
  | ids => .compound id ids

theorem ofSuffix_pathExpr (id : Ident) (ids : List Ident) :
    Link.ofSuffix (pathExpr id ids) = (id :: ids).map fun id => .dot (.ident id) := by
  cases ids <;> rfl

theorem names?_idents (ids : List Ident) :
    Link.names? (ids.map fun id => .dot (.ident id)) = some ids := by
  induction ids
  case nil => rfl
  case cons hi =>
    simp only [Link.names?] at hi
    simp [Link.names?, Link.ident?, hi]

theorem build_path (id : Ident) (ids : List Ident) :
    Link.build (.ident id) (ids.map fun id => .dot (.ident id)) = pathExpr id ids := by
  cases ids
  case nil => rfl
  case cons first more =>
    have names := names?_idents (first :: more)
    rw [List.map_cons] at names ⊢
    simp only [Link.build, List.getLast?_cons, names, pathExpr]

-- One step of a chain of dots and brackets.
def chainStep (r : Rules) (d : Dialect) : List Link × Bool → Parser (Option (List Link × Bool)) :=
  fun (links, star) => do
    if star then return none
    if ← peekSymbol "." then
      if (← tokenAt 1).isSymbol "*" then
        if d.isPostgresql then
          skip
          skip
          return some (links, true)
        else return none
      skip
      return some (links ++ (← suffix r), false)
    else if ← symbol? "[" then return some (links ++ [.bracket (← subscript r)], false)
    else return none

theorem yields_suffix (hl : l.token.Names id)
    (h : Yields (r.expr 100) depth (l :: ls) (pathExpr id ids) rest) :
    Yields (suffix r) depth (l :: ls) ((id :: ids).map fun id => .dot (.ident id)) rest := by
  have ⟨keyword, word⟩ := hl.word
  have suffixed : isSuffix (pathExpr id ids) := by cases ids <;> rfl
  have strength : Yields (strengthOf .period) depth (l :: ls) 100 (l :: ls) := rfl
  have found : Yields (do
      let e ← r.expr (← strengthOf .period)
      if isSuffix e then return e else expected "an identifier or value") depth (l :: ls)
      (pathExpr id ids) rest := by
    refine strength.bind (h.bind ?_)
    rw [suffixed]
    exact .pure
  refine yields_token.bind ?_
  rw [word]
  refine found.attempt.bind ?_
  rw [← ofSuffix_pathExpr]
  cases ids <;> exact .pure

theorem advances_chain {dot : Lexeme} (hdot : dot.token = .symbol ".") (hl : l.token.Names id)
    (h : Yields (r.expr 100) depth (l :: ls) (pathExpr id ids) rest)
    (shorter : rest.length ≤ ls.length) :
    Advances (chainStep r .generic) depth (([], false), dot :: l :: ls)
      (((id :: ids).map fun id => .dot (.ident id), false), rest) := by
  have ⟨keyword, word⟩ := hl.word
  have point : dot.token.isSymbol "." := hdot ▸ rfl
  have second : Yields (tokenAt 1) depth (dot :: l :: ls) l.token (dot :: l :: ls) := rfl
  have named : l.token.isSymbol "*" = false := word ▸ rfl
  have taken : Yields skip depth (dot :: l :: ls) () (l :: ls) := yields_skip (hdot ▸ rfl)
  refine ⟨(yields_peekSymbol ".").bind ?_, by grind⟩
  rw [point]
  refine second.bind ?_
  rw [named]
  exact taken.bind ((yields_suffix hl h).bind .pure)

-- Behind the first name every point begins an expression of its own, one level deeper.
theorem FreePath.yields_chain (h : FreePath ls ids rest) (hm : ids.length ≤ m)
    (hd : ids.length ≤ depth)
    (hrest : Follows 100 rest) :
    Yields (chain (rules m) (.ident id)) depth ls (pathExpr id ids) rest := by
  induction h generalizing id m depth
  case nil hl => exact Sql.yields_chain hl
  case cons dot l id' ls ids rest hdot hl h hi =>
    obtain ⟨m, rfl⟩ : ∃ m', m = m' + 1 := ⟨m - 1, by simp at hm; omega⟩
    obtain ⟨depth, rfl⟩ : ∃ depth', depth = depth' + 1 := ⟨depth - 1, by simp at hd; omega⟩
    have behind : Yields (chain (rules m) (.ident id')) depth ls (pathExpr id' ids) rest :=
      hi (by simpa using hm) (by simpa using hd) hrest
    have follows := hrest.exists_cons
    have expr : Yields ((rules (m + 1)).expr 100) (depth + 1) (l :: ls) (pathExpr id' ids) rest :=
      yields_expression ⟨.ident id', ls, h.yields_prefixExpr hl, behind⟩ follows .refl hrest
    have step := advances_chain hdot hl expr h.length_le
    obtain ⟨l', rest, rfl, hl'⟩ := follows
    have stops : Stops followStops (l' :: rest) := ⟨l', rest, rfl, hl'⟩
    have stop (links : List Link) : Yields (chainStep (rules (m + 1)) .generic (links, false))
        (depth + 1) (l' :: rest) none (l' :: rest) :=
      (stops.no_peekSymbol (by decide)).bind ((stops.no_symbol (by decide)).bind .pure)
    have links := yields_repeated (.single step) (stop _)
    rw [← build_path]
    exact yields_dialect.bind (links.bind .pure)

end Paths

section Columns

variable {w : Word} {ws : List Word} {rest : List Char}

theorem Word.Spelled.names (hw : w.Spelled) (free : w.isFree) : w.token.Names w.ident := by
  simp only [isFree, Bool.not_eq_true', ← Bool.not_eq_true, List.contains_iff_mem,
    List.mem_append, not_or] at free
  exact ⟨hw.word, free.1, free.2⟩

theorem exists_intercalate (w : Word) (ws : List Word) :
    ∃ s, ".".intercalate ((w :: ws).map Word.text) = w.text ++ s := by
  cases ws
  case nil => exact ⟨"", by simp⟩
  case cons w' ws =>
    rw [List.map_cons, String.intercalate_cons_of_ne_nil (by simp)]
    exact ⟨_, String.append_assoc ..⟩

-- A point behind a name is no part of a number.
theorem cutsFrom_path (hw : ∀ w' ∈ w :: ws, w'.Spelled) (hr : EndsWord rest)
    (prev : Option Token) :
    ∃ prev', CutsFrom .generic prev (".".intercalate ((w :: ws).map Word.text)).toList
      (pathTokens ((w :: ws).map Word.token)) prev' rest := by
  induction ws generalizing w prev
  case nil =>
    have scans := (hw w (.head _)).scans rest hr
    exact ⟨some w.token, by simpa [pathTokens] using scans.cutsFrom⟩
  case cons w' ws hi =>
    have ⟨first, others⟩ := List.forall_mem_cons.mp hw
    obtain ⟨s, e⟩ := exists_intercalate w' ws
    have here (behind : List Char) :
        CutsFrom .generic prev w.text.toList [w.token] (some w.token) ('.' :: behind) :=
      (first.scans _ (by simp [EndsWord])).cutsFrom
    have point : CutsFrom .generic (some w.token) ['.'] [.symbol "."] (some (.symbol "."))
        ((".".intercalate ((w' :: ws).map Word.text)).toList ++ rest) := by
      rw [e, String.toList_append, List.append_assoc]
      have ⟨k, word⟩ := first.word
      exact cutsFrom_point (.inl rfl) (by rw [word]; rfl) (others w' (.head _)).begins
    obtain ⟨prev', behind⟩ := hi others (some (.symbol "."))
    refine ⟨prev', ?_⟩
    have := (here _).append (point.append behind)
    simpa [String.intercalate_cons_of_ne_nil, pathTokens, String.toList_append] using this

theorem cuts_path (hws : ws ≠ []) (hw : ∀ w ∈ ws, w.Spelled) (hr : EndsWord rest) :
    Cuts .generic (".".intercalate (ws.map Word.text)).toList (pathTokens (ws.map Word.token))
      rest := by
  cases ws
  case nil => contradiction
  case cons w ws => exact fun prev => cutsFrom_path hw hr prev

theorem unbracketed_path (hw : ∀ w' ∈ ws, w'.Spelled) :
    Token.symbol "[" ∉ pathTokens (ws.map Word.token) := by
  induction ws
  case nil => simp [pathTokens]
  case cons w ws hi =>
    have ⟨first, others⟩ := List.forall_mem_cons.mp hw
    obtain ⟨k, word⟩ := first.word
    cases ws
    case nil => simp [pathTokens, word]
    case cons w' ws => simpa [pathTokens, word] using hi others

theorem unstarred_path (hw : ∀ w' ∈ w :: ws, w'.Spelled) :
    Unstarred (pathTokens ((w :: ws).map Word.token)) := by
  induction ws generalizing w
  case nil => exact .last (by simp)
  case cons w' ws hi =>
    have ⟨_, others⟩ := List.forall_mem_cons.mp hw
    obtain ⟨k', word'⟩ := (others w' (.head _)).word
    have behind := hi others
    cases ws
    all_goals
      simp only [List.map_cons, List.map_nil, pathTokens, word'] at behind ⊢
      exact .more behind

theorem Word.opens (hw : w.Spelled) (free : w.isFree) : w.token.opens := by
  obtain ⟨k, word⟩ := hw.word
  have plain := (hw.names free).plain
  have words : ["SELECT", "WITH", "ANY", "ALL", "SOME"].contains w.token.keyword = false := by
    cases e : ["SELECT", "WITH", "ANY", "ALL", "SOME"].contains w.token.keyword
    case false => rfl
    case true =>
      have all : ["SELECT", "WITH", "ANY", "ALL", "SOME"].all (formWords.contains ·) := by decide
      have := List.all_eq_true.mp all _ (List.contains_iff_mem.mp e)
      exact absurd (List.contains_iff_mem.mp this) plain
  have symbol (s : String) : w.token.isSymbol s = false := word ▸ rfl
  simp only [Token.opens, words, symbol]
  rfl

theorem rounded_path (hw : ∀ w' ∈ w :: ws, w'.Spelled) (free : w.isFree) :
    Rounded (pathTokens ((w :: ws).map Word.token)) := by
  have unstarred := unstarred_path hw
  have unbracketed := unbracketed_path hw
  have opens := Word.opens (hw w (.head _)) free
  obtain ⟨k, word⟩ := (hw w (.head _)).word
  have ⟨more, e⟩ : ∃ more, pathTokens ((w :: ws).map Word.token) = w.token :: more := by
    cases ws <;> exact ⟨_, rfl⟩
  exact ⟨⟨_, _, e, opens, by rw [word]; nofun⟩, unbracketed, unstarred⟩

theorem exists_path {ls after : List Lexeme}
    (hafter : ∃ l rest, after = l :: rest ∧ l.token.follows)
    (hw : ∀ w' ∈ w :: ws, w'.Spelled) (free : ∀ w' ∈ w :: ws, w'.isFree)
    (hls : ls.map (·.token) = pathTokens ((w :: ws).map Word.token)) :
    ∃ l ls', ls = l :: ls' ∧ l.token.Names w.ident ∧
      FreePath (ls' ++ after) (ws.map Word.ident) after := by
  induction ws generalizing w ls
  case nil =>
    obtain ⟨l, rfl, hl⟩ := List.map_eq_singleton_iff.mp hls
    obtain ⟨l', rest, rfl, hl'⟩ := hafter
    exact ⟨l, [], rfl, hl ▸ (hw w (.head _)).names (free w (.head _)), .nil hl'⟩
  case cons w' ws hi =>
    obtain ⟨l, ls, rfl, hl, hls⟩ := List.map_eq_cons_iff.mp hls
    obtain ⟨dot, ls, rfl, hdot, hls⟩ := List.map_eq_cons_iff.mp hls
    have ⟨first, others⟩ := List.forall_mem_cons.mp hw
    have ⟨free, frees⟩ := List.forall_mem_cons.mp free
    obtain ⟨l', ls, rfl, names, path⟩ := hi others frees hls
    exact ⟨l, dot :: l' :: ls, rfl, hl ▸ first.names free, .cons hdot names path⟩

-- Names in a row read back if none of them is a word that is never a name.
theorem reads_path (hw : ∀ w' ∈ w :: ws, w'.Spelled) (free : ∀ w' ∈ w :: ws, w'.isFree) :
    Reads (pathExpr w.ident (ws.map Word.ident)) (pathTokens ((w :: ws).map Word.token)) 100 100
      ws.length := by
  intro m depth strength ls after hls hm hk _ hafter
  have ⟨l, ls', e, named, path⟩ := exists_path hafter.exists_cons hw free hls
  have length : ws.length ≤ ls.length := by
    have := congrArg List.length hls
    rw [List.length_map] at this
    rw [this]
    clear * -
    induction ws generalizing w
    case nil => simp
    case cons w' ws hi =>
      have := hi (w := w')
      simp only [List.map_cons, pathTokens, List.length_cons] at this ⊢
      omega
  have chained : Yields (chain (rules m) (.ident w.ident)) depth (ls' ++ after)
      (pathExpr w.ident (ws.map Word.ident)) after :=
    path.yields_chain (by simp [Unfolded] at hm ⊢; omega) (by simpa using hk) hafter
  subst e
  exact ⟨_, after, ⟨.ident w.ident, ls' ++ after, path.yields_prefixExpr named, chained⟩,
    hafter.exists_cons, .refl⟩

theorem toNode_pathExpr (id : Ident) (ids : List Ident) :
    (pathExpr id ids).toNode = .column ⟨(id :: ids).map Ident.folded⟩ := by
  cases ids <;> simp [pathExpr, Expr.toNode, columnNode]

end Columns

section Constants

variable {c : Constant} {l l' : Lexeme} {ls : List Lexeme}

-- A constant is written as one token, if its number is a numeral. Parameters have a text of their
-- own.
def constToken : Constant → Token
  | .number digits => .number digits false
  | .string text   => .string .single text
  | .boolean true  => .ofWord "true"
  | .boolean false => .ofWord "false"
  | .null          => .ofWord "NULL"
  | .param name    => .placeholder name

def isOrdinary : Constant → Prop
  | .number digits => isNumeral digits.toList
  | .param _ => False
  | _ => True

theorem cuts_const (hc : isOrdinary c) (hr : EndsOperand rest) :
    Cuts .generic (Render.const c).toList [constToken c] rest := by
  cases c
  case number digits =>
    have numeral := cuts_numeral (d := .generic) rfl hc hr
    rwa [String.ofList_toList] at numeral
  case string text => exact fun _ => ⟨_, (scans_quoteString rfl hr.endsWord text).cutsFrom⟩
  case boolean value => cases value <;> exact cuts_word rfl hr.endsWord
  case null => exact cuts_word rfl hr.endsWord
  case param => cases hc

theorem rounded_const (c : Constant) : Rounded [constToken c] := by
  cases c
  case boolean value => cases value <;> exact .cons .nil rfl nofun
  all_goals exact .cons .nil rfl nofun

theorem settled_of_follows (hl : l.token.follows) : Settled (l :: ls) := by
  have no (s : String) (hs : s ∉ followStops) : l.token ≠ .symbol s :=
    Token.ne_of_isSymbol (Token.isSymbol_of_isAmong hl hs)
  refine ⟨⟨[], l, ls, rfl, by simpa using no "[" (by decide), ?_⟩, ?_⟩
  · rintro _ _ ⟨⟩ e
    exact absurd e (no "(" (by decide))
  · rintro _ _ ⟨⟩
    exact no "." (by decide)

-- What a constant is read as.
def constLiteral : Constant → Literal
  | .number digits => .number digits false
  | .string text   => .string text
  | .boolean value => .boolean value
  | .null          => .null
  | .param name    => .placeholder name

theorem toNode_constLiteral (c : Constant) : (constLiteral c).toNode = .const c := by
  cases c <;> rfl

theorem yields_prefixExpr_const (hl : l.token = constToken c) (hl' : l'.token.follows) (r : Rules)
    (depth : Nat) (ls : List Lexeme) :
    Yields (prefixExpr r) depth (l :: l' :: ls) (.literal (constLiteral c)) (l' :: ls) := by
  have word {text k : String} {v : Literal} (e : l.token = .word text k none)
      (hk : Yields (keywordType? r l.token.keyword) depth (l :: l' :: ls) none (l :: l' :: ls))
      (h : Yields (keywordForm? r ⟨text, none⟩ k) depth (l' :: ls) (some (.literal v)) (l' :: ls)) :
      Yields (prefixExpr r) depth (l :: l' :: ls) (.literal v) (l' :: ls) :=
    yields_prefixExpr_word e (fails_typedLiteral e hk (settled_of_follows hl'))
      (yields_wordExpr_form h)
  obtain ⟨t, p, g⟩ := l
  subst hl
  cases c
  case boolean value =>
    cases value
    case true => exact word rfl rfl rfl
    case false => exact word rfl rfl rfl
  case null => exact word rfl rfl rfl
  all_goals rfl

theorem reads_const (c : Constant) : Reads (.literal (constLiteral c)) [constToken c] 100 100 0 := by
  refine .of_root fun m depth ls after hls _ _ hafter => ?_
  obtain ⟨l, rfl, hl⟩ := List.map_eq_singleton_iff.mp hls
  obtain ⟨l', rest, rfl, hl'⟩ := hafter.exists_cons
  exact yields_prefixExpr_const hl hl' (rules m) depth rest

end Constants

end SqlLens.Sql
