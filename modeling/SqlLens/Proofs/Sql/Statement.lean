import SqlLens.Node.Sql
import SqlLens.Proofs.Sql.Written

namespace SqlLens.Sql

open SqlLens.Sql.Parser SqlLens.Sql.Lexer

section Loop

-- Statements with semicolons between them, up to the end of the text.
inductive Stated (r : Rules) (depth : Nat) : List Lexeme → List Statement → Lexeme → Prop
  | last {l ls s} {last : Lexeme} : l.token.beginsStatement →
    Yields r.statement depth (l :: ls) s [last] → 1 ≤ ls.length → last.token = .eof →
    Stated r depth (l :: ls) [s] last
  | more {l ls s rest ss} {semicolon last : Lexeme} : l.token.beginsStatement →
    Yields r.statement depth (l :: ls) s (semicolon :: rest) → rest.length + 1 ≤ ls.length →
    semicolon.token = .symbol ";" → Stated r depth rest ss last →
    Stated r depth (l :: ls) (s :: ss) last

variable {r : Rules} {depth : Nat} {l last : Lexeme} {ls lead rest : List Lexeme} {s : Statement}
  {ss found : List Statement} {separated : Bool} {q : Query}

theorem Token.not_of_beginsStatement {t : Token} (ht : t.beginsStatement) :
    t.isSymbol ";" = false ∧ t ≠ .eof := by
  cases t
  case symbol text =>
    obtain rfl : text = "(" := by
      simpa [beginsStatement, beginsQuery, isKeyword, keyword, isSymbol] using ht
    exact ⟨rfl, by simp⟩
  case eof => cases ht
  all_goals exact ⟨rfl, by simp⟩

-- A query is a statement.
theorem yields_statement (hl : l.token.beginsStatement)
    (hq : Yields r.query depth (l :: ls) q rest) :
    Yields (statement r) (depth + 1) (l :: ls) (.query q) rest := by
  refine Yields.deeper (yields_dialect.bind (yields_lexeme.bind ?_))
  simp only [Token.beginsStatement, Token.beginsQuery, Token.isKeyword, Bool.or_eq_true,
    beq_iff_eq] at hl
  obtain (hl | hl) | hl := hl
  · rw [hl]
    exact hq.bind .pure
  · rw [hl]
    exact hq.bind .pure
  · have none : l.token.keyword = "" := by rw [Token.eq_of_isSymbol hl]; rfl
    rw [none]
    simp only [hl, if_true]
    exact hq.bind .pure

-- One round of the loop over the statements of a text.
def nextStatement (r : Rules) :
    List Statement × Bool → Parser (Option (List Statement × Bool)) := fun (found, _) => do
  let semicolons ← many do if ← symbol? ";" then return some () else return none
  let separated := found.isEmpty || !semicolons.isEmpty
  match ← token with
  | .eof => return none
  | t =>
    if !separated && t.isKeyword "END" then return none
    if !separated then expected "end of statement"
    return some ((← r.statement) :: found, true)

theorem statements_eq (r : Rules) : statements r = do
    let (found, _) ← repeated (nextStatement r) ([], false)
    return found.reverse := rfl

-- A semicolon is taken in front of every statement but the first.
theorem exists_semicolons (depth : Nat) (ls : List Lexeme) (hl : l.token.isSymbol ";" = false)
    (hlead : lead.map (·.token) = if found.isEmpty then [] else [.symbol ";"]) :
    ∃ marks : List Unit, (found.isEmpty || !marks.isEmpty) = true ∧
      Yields (many do if ← symbol? ";" then return some () else return none) depth (lead ++ l :: ls)
        marks (l :: ls) := by
  let mark : Parser (Option Unit) := do if ← symbol? ";" then return some () else return none
  have stop : Yields mark depth (l :: ls) none (l :: ls) := (yields_no_symbol hl).bind .pure
  cases found
  case nil =>
    obtain rfl := List.map_eq_nil_iff.mp hlead
    exact ⟨[], rfl, yields_many_nil stop⟩
  case cons =>
    obtain ⟨semicolon, rfl, hsemicolon⟩ := List.map_eq_singleton_iff.mp hlead
    have first : Yields mark depth (semicolon :: l :: ls) (some ()) (l :: ls) :=
      (yields_symbol hsemicolon).bind .pure
    refine ⟨[()], rfl, Yields.bind (yields_repeated (.single ⟨first.bind .pure, ?_⟩) ?_) .pure⟩
    · simp
    · exact stop.bind .pure

theorem advances_statement (hl : l.token.beginsStatement)
    (hlead : lead.map (·.token) = if found.isEmpty then [] else [.symbol ";"])
    (read : Yields r.statement depth (l :: ls) s rest) (shorter : rest.length ≤ ls.length) :
    Advances (nextStatement r) depth ((found, separated), lead ++ l :: ls)
      ((s :: found, true), rest) := by
  have ⟨plain, inner⟩ := Token.not_of_beginsStatement hl
  have ⟨marks, apart, taken⟩ := exists_semicolons depth ls plain hlead
  refine ⟨taken.bind (yields_token.bind ?_), by simp; omega⟩
  simp only [apart, Bool.not_true, Bool.false_and, Bool.false_eq_true, if_false]
  exact read.bind .pure

theorem Stated.loop (lead : List Lexeme) (found : List Statement) (separated : Bool)
    (h : Stated r depth ls ss last)
    (hlead : lead.map (·.token) = if found.isEmpty then [] else [.symbol ";"]) :
    Relation.ReflTransGen (Advances (nextStatement r) depth) ((found, separated), lead ++ ls)
      ((ss.reverse ++ found, true), [last]) := by
  induction h generalizing found separated lead
  case last hl read shorter _ => exact .single (advances_statement hl hlead read shorter)
  case more semicolon _ hl read shorter hsemicolon _ hi =>
    rw [List.reverse_cons, List.append_assoc]
    exact .head (advances_statement hl hlead read shorter) (hi [semicolon] _ _ (by simpa))

theorem Stated.eof (h : Stated r depth ls ss last) : last.token = .eof := by
  induction h
  case last hlast => exact hlast
  case more hi => exact hi

theorem Stated.yields (h : Stated r depth ls ss last) :
    Yields (statements r) depth ls ss [last] := by
  have loop := h.loop [] [] false rfl
  have hlast := h.eof
  have unmarked : Yields (do if ← symbol? ";" then return some () else return none) depth [last]
      none [last] := (yields_no_symbol (by rw [hlast]; rfl)).bind .pure
  have stop : Yields (nextStatement r (ss.reverse ++ [], true)) depth [last] none [last] := by
    refine (yields_many_nil unmarked).bind (yields_token.bind ?_)
    rw [hlast]
    exact .pure
  rw [statements_eq]
  exact (yields_repeated loop stop).bind (by simpa using .pure)

end Loop

section Texts

variable {xs : List (Entry Query)} {ls : List Lexeme} {last : Lexeme} {m : Nat} {S : List Node}

-- A query reads back as a statement in front of the next semicolon.
theorem Spelled.statement {q : Query} {text : String} {ts : List Token} {after : List Lexeme}
    (hq : Spelled (.query q) text ts 49) (hls : ls.map (·.token) = ts)
    (hm : 4 * ls.length + 10 ≤ m) (hafter : Stops [")", ";"] after) :
    ∃ l ls', ls = l :: ls' ∧ l.token.beginsStatement ∧
      Yields (rules m).statement 50 (ls ++ after) (.query q) after := by
  obtain ⟨m, rfl⟩ : ∃ m', m = m' + 1 := ⟨m - 1, by omega⟩
  have reads : ReadsBefore (fun r => r.query) [")", ";"] q ts 49 := hq.reads
  obtain ⟨t, ts, rfl, begins⟩ := hq.shape
  obtain ⟨l, ls, rfl, rfl, -⟩ := List.map_eq_cons_iff.mp hls
  exact ⟨l, ls, rfl, begins, yields_statement begins
    (reads m 49 (l :: ls) after hls (by omega) le_rfl hafter)⟩

theorem stated_queries (hxs : xs ≠ []) (each : ∀ x ∈ xs, Spelled (.query x.tree) x.text x.tokens 49)
    (hls : ls.map (·.token) = [Token.symbol ";"].intercalate (xs.map (·.tokens)))
    (hlast : last.token = .eof) (hm : 4 * ls.length + 10 ≤ m) :
    Stated (rules m) 50 (ls ++ [last]) (xs.map (.query ·.tree)) last := by
  induction xs generalizing ls
  case nil => contradiction
  case cons x xs hi =>
    have ⟨first, others⟩ := List.forall_mem_cons.mp each
    by_cases only : xs = []
    case pos =>
      subst only
      have tokens : ls.map (·.token) = x.tokens := by simpa [List.intercalate] using hls
      obtain ⟨l, ls, rfl, begins, read⟩ := first.statement tokens hm (.eof hlast)
      exact .last begins read (by simp) hlast
    case neg =>
      have tokens : xs.map (·.tokens) ≠ [] := by simpa using only
      rw [List.map_cons, List.intercalate_cons_of_ne_nil tokens, List.append_assoc] at hls
      obtain ⟨here, behind, rfl, hhere, hbehind⟩ := List.map_eq_append_iff.mp hls
      obtain ⟨semicolon, rest, rfl, hsemicolon, hrest⟩ := List.map_eq_cons_iff.mp hbehind
      simp only [List.length_append, List.length_cons] at hm
      have stops : Stops [")", ";"] (semicolon :: (rest ++ [last])) :=
        ⟨_, _, rfl, by rw [hsemicolon]; rfl⟩
      obtain ⟨l, here, rfl, begins, read⟩ := first.statement (m := m) hhere (by omega) stops
      have more := hi only others hrest (by omega)
      rw [List.append_assoc]
      exact .more begins read (by simp) hsemicolon more

-- Texts of queries with semicolons between them are parsed into the queries.
theorem parse_semicolons (each : ∀ x ∈ xs, Spelled (.query x.tree) x.text x.tokens 49) :
    parse .generic ("; ".intercalate (xs.map (·.text))) = .ok (xs.map (.query ·.tree)) := by
  by_cases none : xs = []
  case pos =>
    subst none
    rfl
  case neg =>
    have ⟨ls, last, cut, hls, hlast⟩ :=
      (Spells.semicolons fun x hx => (each x hx).spells.1).exists_lexemes
    have read := (stated_queries none each hls hlast (m := 4 * (ls ++ [last]).length + 400)
      (by simp; omega)).yields
    rw [parse, cut]
    show Except.bind (statements _ .generic { rest := ls ++ [last] }) _ = _
    rw [read]
    rfl

-- A statement that is written as a spelling of itself, with few enough levels inside each other.
def Recovers (n : Node) : Prop :=
  ∃ q text ts k, Legible .whole (.query q) text ts k ∧ k ≤ 49 ∧ q.toNode = n

theorem exists_entries (each : ∀ n ∈ S, Recovers n) : ∃ xs : List (Entry Query),
    xs.map (·.tree.toNode) = S ∧ ∀ x ∈ xs, Legible .whole (.query x.tree) x.text x.tokens 49 := by
  induction S
  case nil => exact ⟨[], rfl, nofun⟩
  case cons n S hi =>
    have ⟨⟨q, text, ts, k, hq, hk, same⟩, others⟩ := List.forall_mem_cons.mp each
    have ⟨xs, hxs, legible⟩ := hi others
    exact ⟨⟨q, text, ts⟩ :: xs, by simp [same, hxs],
      List.forall_mem_cons.mpr ⟨hq.deepen hk, legible⟩⟩

-- The statements read back from their text.
theorem exists_sql_read (each : ∀ n ∈ S, Recovers n) :
    ∃ s, Renderer.sql S = .ok s ∧ Node.ofSql .generic s = .ok S := by
  obtain ⟨xs, rfl, legible⟩ := exists_entries each
  have texts : (xs.map (·.tree.toNode)).map Manner.plain.text = xs.map (·.text) := by
    rw [List.map_map]
    exact List.map_congr_left fun x hx => List.singleton_inj.mp (legible x hx).text_eq
  have complete : ∀ n ∈ xs.map (·.tree.toNode), n.Complete := by
    simpa using fun x _ => x.tree.proper_toNode.complete
  refine ⟨_, Node.sql_of_complete complete, ?_⟩
  rw [texts, Node.ofSql, parse_semicolons fun x hx => (legible x hx).spelled]
  simp [Statement.toNode, Function.comp_def]

end Texts

end SqlLens.Sql
