import SqlLens.Proofs.Node.Truth
import SqlLens.Proofs.Sql.Precedence
import SqlLens.Proofs.Sql.Written

namespace SqlLens.Sql

open SqlLens.Sql.Parser SqlLens.Sql.Lexer

-- Columns, of which the names are `named`, and constants.
inductive Operand (named : String → Prop) : Node → Prop
  | column {fields} : fields ≠ [] → "*" ∉ fields → (∀ f ∈ fields, named f) →
    Operand named (.column ⟨fields⟩)
  | const {c} : isOrdinary c → Operand named (.const c)

-- Trees of connectives and negations over values and their comparisons.
inductive Condition (named : String → Prop) : Node → Prop
  | operand {n} : Operand named n → Condition named n
  | comparison {op l r} : op ∈ comparisonSymbols → Operand named l → Operand named r →
    Condition named (.operator ⟨.op, op, some l, some r⟩)
  | connective {kind name l r} : kind.isConnective → Condition named l → Condition named r →
    Condition named (.operator ⟨kind, name, some l, some r⟩)
  | negation {name l n} : Condition named n → Condition named (.operator ⟨.not, name, l, some n⟩)

-- The name is none of the words that the parser never reads as a name.
def isFree (name : String) : Prop := (nameToken name).keyword ∉ Words.nameStops

-- The rules are unfolded far enough for the levels that are left.
def Ample (m depth : Nat) : Prop := 2 * depth + 300 ≤ m

-- What the tokens are by the strength of their operators.
def IsReading (ts : List Token) (n : Node) : Prop := ∃ s, Grouped Value ts s n

variable {named : String → Prop} {n n' l r a b : Node} {ts lts rts : List Token} {s ls rs : Nat}
  {kind : OperatorKind} {name : String} {t : Token} {atom : List Token → Node → Prop} {m : Manner}

section Texts

-- The node is written, and its text is cut into the tokens.
structure Writes (m : Manner) (n : Node) (ts : List Token) : Prop where
  text : m.HasText n
  spells : Spells (m.text n) ts

namespace Writes

theorem of_layout? {layout : Layout} (hl : n.layout? = some layout)
    (each : layout.Each Manner.HasText) (spells : Spells layout.content ts) :
    Writes .plain n ts := by
  have placed : Manner.plain.layout? n = some layout := by
    rw [Manner.layout?_of_not_special rfl, hl]
    rfl
  refine ⟨Manner.hasText_iff.mpr ⟨layout, placed, each⟩, ?_⟩
  rwa [Manner.text_eq_content placed each]

theorem bare (hn : Writes .plain n ts) (hr : m ≠ .range) (ha : m ≠ .assignment)
    (he : m.encloses n = false) : Writes m n ts := by
  refine ⟨(Render.hasText_iff_plain hr ha).mpr hn.text, ?_⟩
  rw [Render.text_eq_parensIf m hr ha hn.text, he]
  exact hn.spells

theorem enclosed (hn : Writes .plain n ts) (hr : m ≠ .range) (ha : m ≠ .assignment)
    (he : m.encloses n) : Writes m n (parenTokens ts) := by
  refine ⟨(Render.hasText_iff_plain hr ha).mpr hn.text, ?_⟩
  rw [Render.text_eq_parensIf m hr ha hn.text, he]
  exact hn.spells.parens

theorem of_node_eq (same : Render.node n' = Render.node n) (hn : Writes .plain n ts) :
    Writes .plain n' ts := by
  have written := Render.node_eq_ok_iff.mpr ⟨hn.text, rfl⟩
  have ⟨has, same⟩ := Render.node_eq_ok_iff.mp (same.trans written)
  exact ⟨has, same ▸ hn.spells⟩

theorem joined (hj : Joins kind name s t) (hl : Writes (sideManner kind) l lts)
    (hr : Writes (sideManner kind) r rts) :
    Writes .plain (.operator ⟨kind, name, some l, some r⟩) (lts ++ t :: rts) := by
  have ⟨_, op, ho, same⟩ := hj.exists_infix
  refine .of_layout? (ho.layout same l r) ?_ ?_
  · simp [Layout.Each, Segment.Each, hl.text, hr.text]
  · exact (hl.spells.append (ho.spells hr.spells).trails).of_eq (by simp) rfl

theorem negation (hn : Writes (.below .not) n ts) :
    Writes .plain (notNode n) (.ofWord "NOT" :: ts) := by
  refine .of_layout? rfl ?_ ((hn.spells.keyword "NOT" rfl).of_eq (by simp) rfl)
  simp [Layout.Each, Segment.Each, hn.text]

theorem column {w : Word} {ws : List Word} (hw : ∀ w' ∈ w :: ws, w'.Rendered)
    (star : ∀ w' ∈ w :: ws, w'.ident.folded ≠ "*") :
    Writes .plain (.column ⟨(w.ident :: ws.map Word.ident).map Ident.folded⟩)
      (pathTokens ((w :: ws).map Word.token)) := by
  refine .of_layout? (layout_column hw star) (by simp [Layout.Each, Segment.Each]) ?_
  exact (leads_path fun w h => (hw w h).spelled).spells.of_eq (by simp) rfl

end Writes

end Texts

section Operands

def operandTokens : Node → List Token
  | .column c => pathTokens (c.fields.map nameToken)
  | .const c => [constToken c]
  | _ => []

theorem name?_nameToken (name : String) : (nameToken name).name? = some name := by
  have free : booleanWords.contains (nameToken name).keyword = false :=
    keyword_nameToken_of_subset rfl name
  by_cases plain : Render.isPlain name
  case pos =>
    have word : nameToken name = .word name (Text.asciiUpper name) none := if_pos plain
    rw [word] at free ⊢
    simp only [Token.name?, free, Bool.false_eq_true, if_false]
    rw [Ident.folded, lower_of_isPlain plain]
  case neg =>
    have word : nameToken name = .word name "" (some '\x22') := if_neg plain
    rw [word] at free ⊢
    simp only [Token.name?, free, Bool.false_eq_true, if_false]
    rfl

theorem namePath_pathTokens (name : String) (more : List String) :
    NamePath (pathTokens ((name :: more).map nameToken)) (name :: more) := by
  induction more generalizing name
  case nil => exact .last (name?_nameToken name)
  case cons next more hi => exact .more (name?_nameToken name) (hi next)

theorem constant?_constToken {c : Constant} (hc : isOrdinary c) :
    (constToken c).constant? = some c := by
  cases c
  case boolean value => cases value <;> rfl
  case param => cases hc
  all_goals rfl

namespace Operand

def Spelled (named : String → Prop) (ts : List Token) (n : Node) : Prop :=
  Operand named n ∧ ts = operandTokens n

theorem writes (hn : Operand named n) : Writes .plain n (operandTokens n) := by
  cases hn
  case column fields hf star _ =>
    obtain _ | ⟨name, more⟩ := fields
    case nil => contradiction
    case cons =>
      have rendered : ∀ w ∈ Word.ofName name :: more.map Word.ofName, w.Rendered := by
        simp [Word.Rendered]
      have star : ∀ w ∈ Word.ofName name :: more.map Word.ofName, w.ident.folded ≠ "*" := by
        intro w hw
        obtain ⟨field, hfield, rfl⟩ : ∃ f ∈ name :: more, Word.ofName f = w :=
          List.mem_map.mp hw
        rw [Word.folded_ofName]
        rintro rfl
        exact star hfield
      have written := Writes.column rendered star
      simpa [operandTokens, Function.comp_def] using written
  case const c hc =>
    refine .of_layout? rfl (by simp [Layout.Each, Segment.Each]) ?_
    simpa [operandTokens] using spells_const hc

theorem value (hn : Operand named n) : Value (operandTokens n) n := by
  cases hn
  case column fields hf _ _ =>
    cases fields
    case nil => contradiction
    case cons => exact .column (namePath_pathTokens _ _)
  case const hc => exact .const (constant?_constToken hc)

-- The parser reads it too, if none of the names is a word that it never reads as one.
theorem readsAlone (hn : Operand isFree n) : ReadsAlone (operandTokens n) n := by
  cases hn
  case column fields hf star free =>
    obtain _ | ⟨name, more⟩ := fields
    case nil => contradiction
    case cons =>
      have spelled : ∀ w ∈ Word.ofName name :: more.map Word.ofName, w.Spelled := by
        simp [Word.spelled_ofName]
      have free' : ∀ w ∈ Word.ofName name :: more.map Word.ofName, w.isFree := by
        simpa [Word.isFree_ofName, isFree] using free
      have plain : (nameToken name).isKeyword "EXISTS" = false := by
        rw [Token.isKeyword, beq_eq_false_iff_ne]
        intro e
        have := free name (.head _)
        rw [isFree, e] at this
        exact this (.head _)
      have tokens : operandTokens (.column ⟨name :: more⟩) =
          pathTokens ((Word.ofName name :: more.map Word.ofName).map Word.token) := by
        simp [operandTokens, Function.comp_def]
      refine ⟨tokens ▸ rounded_path spelled (free' _ (.head _)), ?_, _, _, ?_,
        tokens ▸ reads_path spelled free'⟩
      · cases more <;> exact plain
      · simp [toNode_pathExpr, Function.comp_def]
  case const c hc =>
    refine ⟨rounded_const c, ?_, _, _, ?_, reads_const c⟩
    · cases c
      case boolean value => cases value <;> rfl
      all_goals rfl
    · rw [Expr.toNode, toNode_constLiteral]

theorem written (hn : Operand named n) : Writes .operand n (operandTokens n) := by
  refine hn.writes.bare nofun nofun ?_
  cases hn <;> rfl

end Operand

end Operands

theorem IsReading.iff_eq (hn : IsReading ts n) : IsReading ts n' ↔ n' = n := by
  have ⟨s, hn⟩ := hn
  constructor
  case mp =>
    intro ⟨s', hn'⟩
    exact hn'.unique atomic_value hn
  case mpr =>
    rintro rfl
    exact ⟨s, hn⟩

section Connectives

-- The strength of a connective is its own.
theorem Joins.eq_of_connective {kind' : OperatorKind} {name' : String} {t' : Token}
    (hk : kind.isConnective) (h : Joins kind name s t) (h' : Joins kind' name' s t') :
    kind' = kind ∧ name = "" ∧ name' = "" ∧ t' = t := by
  cases h
  case comparison => cases hk
  all_goals
    cases h'
    exact ⟨rfl, rfl, rfl, rfl⟩

theorem Joins.lt_of_connective (hk : kind.isConnective) (h : Joins kind name s t) : s < 15 := by
  cases h
  case comparison => cases hk
  all_goals decide

-- A chain behind a connective of its own kind is read from the left like the rest.
theorem Grouped.chain (hk : kind.isConnective) (hj : Joins kind name s t)
    (hl : Grouped atom lts ls l) (hs : s ≤ ls) (hr : Grouped atom rts rs r) (hs' : s ≤ rs) :
    ∃ n, Grouped atom (lts ++ t :: rts) s n ∧
      (Node.operator ⟨kind, name, some l, some r⟩).Associated n := by
  have behind {r : Node} {rts : List Token} {rs : Nat} (hr : Grouped atom rts rs r) (h : s < rs) :
      ∃ n, Grouped atom (lts ++ t :: rts) s n ∧
        (Node.operator ⟨kind, name, some l, some r⟩).Associated n :=
    ⟨_, .join hj hl hs hr h, .refl _⟩
  have weak := hj.lt_of_connective hk
  induction hr
  case atom h => exact behind (.atom h) (by omega)
  case parens h _ => exact behind (.parens h) (by omega)
  case negation h hn _ => exact behind (.negation h hn) weak
  case join kind' name' t' s' a _ _ b _ _ hj' ha has hb hbs hi _ =>
    by_cases same : s = s'
    case neg => exact behind (.join hj' ha has hb hbs) (Nat.lt_of_le_of_ne hs' same)
    case pos =>
      subst same
      obtain ⟨rfl, rfl, rfl, rfl⟩ := hj.eq_of_connective hk hj'
      have ⟨n, hn, chained⟩ := hi has
      have whole := hn.join hj' le_rfl hb hbs
      rw [List.append_assoc, List.cons_append] at whole
      exact ⟨_, whole, .trans (.symm (.assoc hk)) (.connective hk chained (.refl _))⟩

-- How tightly what a kind of operator makes binds.
def kindStrength : OperatorKind → Nat
  | .or => 5
  | .and => 10
  | .not => 15
  | _ => 20

def nodeStrength : Node → Nat
  | .operator o => kindStrength o.kind
  | _ => 100

theorem Operand.nodeStrength_eq (hn : Operand named n) : nodeStrength n = 100 := by
  cases hn <;> rfl

theorem exists_joins (hk : kind.isConnective) : ∃ t, Joins kind "" (kindStrength kind) t := by
  cases kind
  case and => exact ⟨_, .and⟩
  case or => exact ⟨_, .or⟩
  all_goals cases hk

-- Below a connective or a negation, what binds more loosely is enclosed.
theorem kindStrength_le (hk : kind.isConnective ∨ kind = .not)
    (he : (Manner.below kind).encloses n = false) : kindStrength kind ≤ nodeStrength n := by
  have kinds : kind = .and ∨ kind = .or ∨ kind = .not := by
    simpa [OperatorKind.isConnective, or_assoc] using hk
  obtain rfl | rfl | rfl := kinds
  all_goals
    cases n
    case operator o =>
      obtain ⟨child, _, _, _⟩ := o
      simp only [Manner.encloses, Render.needsParensBelow] at he
      cases child <;> simp_all [nodeStrength, kindStrength]
    all_goals simp [nodeStrength, kindStrength]

theorem exists_below (hn : Writes .plain n ts) (hg : Grouped atom ts s n')
    (hs : nodeStrength n ≤ s) (hk : kind.isConnective ∨ kind = .not) :
    ∃ ts s, Writes (.below kind) n ts ∧ Grouped atom ts s n' ∧ kindStrength kind ≤ s := by
  cases he : (Manner.below kind).encloses n
  case false => exact ⟨ts, s, hn.bare nofun nofun he, hg, (kindStrength_le hk he).trans hs⟩
  case true =>
    refine ⟨parenTokens ts, 100, hn.enclosed nofun nofun he, .parens hg, ?_⟩
    cases kind <;> decide

-- Neither the name of a connective is written nor what a negation has on its left.
theorem node_connective (hk : kind.isConnective) :
    Render.node (.operator ⟨kind, name, some l, some r⟩) =
      Render.node (.operator ⟨kind, "", some l, some r⟩) := by
  cases kind
  case and | or => simp only [Render.node, Render.operator]
  all_goals cases hk

theorem node_negation {left : Option Node} :
    Render.node (.operator ⟨.not, name, left, some n⟩) = Render.node (notNode n) := by
  simp only [notNode, Render.node, Render.operator]

-- The text of a condition is read as the same tree, up to the grouping of its chains.
theorem Condition.exists_grouped (hn : Condition named n) :
    ∃ ts s n', Writes .plain n ts ∧ Grouped (Operand.Spelled named) ts s n' ∧ n.Associated n' ∧
      nodeStrength n ≤ s := by
  induction hn
  case operand n h =>
    exact ⟨_, 100, n, h.writes, .atom ⟨h, rfl⟩, .refl _, h.nodeStrength_eq.le⟩
  case comparison op l r ho hl hr =>
    have joins : Joins .op op 20 (.symbol op) := .comparison ho
    have compared : Writes .plain _ _ := .joined joins hl.written hr.written
    exact ⟨_, 20, _, compared, .join joins (.atom ⟨hl, rfl⟩) (by decide) (.atom ⟨hr, rfl⟩)
      (by decide), .refl _, le_rfl⟩
  case connective kind name l r hk _ _ hl hr =>
    have ⟨lts, ls, l', hl, gl, al, sl⟩ := hl
    have ⟨rts, rs, r', hr, gr, ar, sr⟩ := hr
    have ⟨lts, ls, hl, gl, sl⟩ := exists_below hl gl sl (.inl hk)
    have ⟨rts, rs, hr, gr, sr⟩ := exists_below hr gr sr (.inl hk)
    have ⟨t, joins⟩ := exists_joins hk
    have ⟨n', grouped, chained⟩ := gl.chain hk joins sl gr sr
    have manner : sideManner kind = .below kind := by simp [sideManner, hk]
    have joined := Writes.joined joins (manner ▸ hl) (manner ▸ hr)
    exact ⟨_, _, n', joined.of_node_eq (node_connective hk), grouped,
      .trans (.connective hk al ar) chained, le_rfl⟩
  case negation name l n _ hn =>
    have ⟨ts, s, n', hn, grouped, same, strength⟩ := hn
    have ⟨ts, s, hn, grouped, strength⟩ := exists_below hn grouped strength (.inr rfl)
    exact ⟨_, 15, _, hn.negation.of_node_eq node_negation, .negation grouped strength,
      .negation same, le_rfl⟩

end Connectives

theorem Condition.exists_lexemes (hn : Condition named n) :
    ∃ text ls last s n', Render.node n = .ok text ∧ lex .generic text = .ok (ls ++ [last]) ∧
      last.token = .eof ∧ Grouped (Operand.Spelled named) (ls.map (·.token)) s n' ∧
      n.Associated n' := by
  have ⟨ts, s, n', writes, grouped, same, _⟩ := hn.exists_grouped
  have ⟨ls, last, cut, hls, hlast⟩ := writes.spells.exists_lexemes
  have node := Render.node_eq_ok_iff.mpr ⟨writes.text, rfl⟩
  exact ⟨_, ls, last, s, n', node, cut, hlast, hls ▸ grouped, same⟩

theorem Grouped.isReading (hn : Grouped (Operand.Spelled named) ts s n) : IsReading ts n :=
  ⟨s, hn.mono fun _ _ ⟨h, e⟩ => e ▸ h.value⟩

theorem Grouped.exists_levels {ls : List Lexeme} {last : Lexeme}
    (hn : Grouped (Operand.Spelled isFree) (ls.map (·.token)) s n) (hlast : last.token = .eof) :
    ∃ k, ∀ m depth, Ample m depth → k ≤ depth → ∃ e : Expr,
      Yields ((rules m).expr 0) depth (ls ++ [last]) e [last] ∧
        e.toNode.regrouped = n.regrouped := by
  have ⟨_, _, e, g, h, k, hg, _, _, he, reads⟩ :=
    hn.exists_reads fun _ _ ⟨h, e⟩ => e ▸ h.readsAlone
  have read := Reads.before reads (hn.strength_pos.trans_le hg) (List.nil_subset clauseStops)
  -- The levels that are left bound the unfoldings, so there have to be enough of them.
  refine ⟨k + 1 + 2 * ls.length, fun m depth hm hk => ⟨e, ?_, by rw [he]⟩⟩
  rw [Ample] at hm
  exact read m depth ls [last] rfl (by omega) (by omega) (.eof hlast)

-- The text of a condition has one reading by the strength of its operators. That is the condition
-- up to the grouping of its chains, worth the same whatever its comparisons are worth. The parser
-- reads it too, if no name in the condition is one of the words that it never reads as a name.
theorem condition_read_back (hn : Condition (fun _ => True) n) :
    ∃ text ls last n', Render.node n = .ok text ∧ lex .generic text = .ok (ls ++ [last]) ∧
      last.token = .eof ∧ (∀ n'', IsReading (ls.map (·.token)) n'' ↔ n'' = n') ∧
      n.Associated n' ∧ (∀ value, n'.truth value = n.truth value) ∧
      (Condition isFree n → ∃ k, ∀ m depth, Ample m depth → k ≤ depth → ∃ e : Expr,
        Yields ((rules m).expr 0) depth (ls ++ [last]) e [last] ∧
          e.toNode.regrouped = n'.regrouped) := by
  have ⟨text, ls, last, s, n', node, cut, hlast, grouped, same⟩ := hn.exists_lexemes
  refine ⟨text, ls, last, n', node, cut, hlast, fun n'' => grouped.isReading.iff_eq, same,
    fun value => (same.truth_eq value).symm, fun free => ?_⟩
  obtain ⟨text', ls', last', s', free', node', cut', _, grouped', _⟩ := free.exists_lexemes
  obtain rfl := Except.ok.inj (node.symm.trans node')
  obtain ⟨rfl, rfl⟩ : ls = ls' ∧ last = last' := by
    simpa using Except.ok.inj (cut.symm.trans cut')
  obtain rfl := grouped.isReading.iff_eq.mp grouped'.isReading
  exact grouped'.exists_levels hlast

-- `t."and" AND NOT a <> 'x' AND (a OR NULL)`, where the chain is nested to the right.
theorem condition_read_back_chain :
    let a : Node := .column ⟨["a"]⟩
    let differs : Node := .operator ⟨.op, "<>", some a, some (.const (.string "x"))⟩
    let either : Node := .operator ⟨.or, "", some a, some (.const .null)⟩
    let rest : Node := .operator ⟨.and, "", some (notNode differs), some either⟩
    let n : Node := .operator ⟨.and, "", some (.column ⟨["t", "and"]⟩), some rest⟩
    ∃ text ls last n', Render.node n = .ok text ∧ lex .generic text = .ok (ls ++ [last]) ∧
      last.token = .eof ∧ (∀ n'', IsReading (ls.map (·.token)) n'' ↔ n'' = n') ∧
      n.Associated n' ∧ (∀ value, n'.truth value = n.truth value) ∧
      ∃ k, ∀ m depth, Ample m depth → k ≤ depth → ∃ e : Expr,
        Yields ((rules m).expr 0) depth (ls ++ [last]) e [last] ∧
          e.toNode.regrouped = n'.regrouped := by
  intro a differs either rest n
  have condition {named : String → Prop} (ha : named "a") (ht : named "t") (hand : named "and") :
      Condition named n := by
    have a : Operand named a := .column nofun (by decide) (by simpa using ha)
    have path : Operand named (.column ⟨["t", "and"]⟩) :=
      .column nofun (by decide) (by simpa using ⟨ht, hand⟩)
    have differs : Condition named differs := .comparison (by decide) a (.const trivial)
    exact .connective rfl (.operand path) (.connective rfl (.negation differs)
      (.connective rfl (.operand a) (.operand (.const trivial))))
  have free (name : String) (h : ¬(nameToken name).keyword ∈ Words.nameStops) : isFree name := h
  have ⟨text, ls, last, n', node, cut, hlast, unique, same, truth, parsed⟩ :=
    condition_read_back (condition trivial trivial trivial)
  exact ⟨text, ls, last, n', node, cut, hlast, unique, same, truth,
    parsed (condition (free "a" (by decide +kernel)) (free "t" (by decide +kernel))
      (free "and" (by decide +kernel)))⟩

end SqlLens.Sql
