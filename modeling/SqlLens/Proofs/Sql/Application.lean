import Mathlib
import SqlLens.Node.Sql
import SqlLens.Proofs.Except
import SqlLens.Proofs.Render.Regroup
import SqlLens.Proofs.Sql.Written

namespace SqlLens

-- The single node at the path.
def Path.node? (p : Path) (S : List Node) : Option Node :=
  match p.resolve? S with
  | some (.one n) => some n
  | _ => none

namespace Sql

open SqlLens.Sql.Parser SqlLens.Sql.Lexer

variable {e : Expr} {n : Node} {text : String} {ts : List Token} {k : Nat}

-- The text of an application reads back as the same operator with the same operands, if every
-- operand in it that stands without parentheses binds tightly enough for its place. It takes one
-- level more than its operands.
theorem application_read_back (he : Legible .whole (.expr e 1 0) text ts k)
    (same : e.toNode.regrouped = n.regrouped) (applied : n.isApplication) :
    ∃ ls last, Render.node n = .ok text ∧ lex .generic text = .ok ls ∧ last.token = .eof ∧
      n.SameApplication e.toNode ∧ ∀ m depth, 4 * ls.length + 8 ≤ m → k + 1 ≤ depth →
        Yields ((rules m).expr 0) depth ls e [last] := by
  have node : Render.node n = .ok text := by
    rw [← Render.node_regrouped n, ← same, Render.node_regrouped]
    exact he.node_eq rfl
  have ⟨ls, last, cut, hls, hlast⟩ := he.spelled.spells.1.exists_lexemes
  have read := Reads.before he.spelled.reads (by decide) (List.nil_subset clauseStops)
  refine ⟨ls ++ [last], last, node, cut, hlast, n.sameApplication_of_regrouped same.symm applied,
    fun m depth hm hk => ?_⟩
  rw [List.length_append, List.length_singleton] at hm
  exact read m depth ls [last] hls (by omega) hk (.eof hlast)

-- `f(a, $1) IS NULL = ((SELECT b FROM t) + c)`: the test stands in front, where nothing takes its
-- operand from it, and the sum is enclosed.
theorem application_read_back_query :
    let column (name : String) : Node := .column ⟨[name]⟩
    let test : Node := .nullTest ⟨.call { name := "f", args := [column "a", .const (.param "$1")] },
      false⟩
    let query : Node := .select {
      targetList := [.target ⟨none, some (column "b")⟩], fromClause := [.table { name := "t" }] }
    let sum : Node := .operator ⟨.op, "+", some (.sublink ⟨.expr, none, none, query⟩),
      some (column "c")⟩
    let n : Node := .operator ⟨.op, "=", some test, some sum⟩
    ∃ (e : Expr) (text : String) (ls : List Lexeme) (last : Lexeme), Render.node n = .ok text ∧
      lex .generic text = .ok ls ∧ last.token = .eof ∧ n.SameApplication e.toNode ∧
      ∀ m depth, 4 * ls.length + 8 ≤ m → 6 ≤ depth →
        Yields ((rules m).expr 0) depth ls e [last] := by
  intro column test query sum n
  have a := Legible.name "a" (by decide +kernel) (by decide)
  have b := Legible.name "b" (by decide +kernel) (by decide)
  have c := Legible.name "c" (by decide +kernel) (by decide)
  have marker : Legible .whole _ "$1" _ 0 :=
    .parameter ⟨'$', ['1'], rfl, .inr ⟨rfl, List.forall_mem_singleton.mpr rfl⟩⟩
  have left {e : Expr} {text : String} {ts : List Token}
      (h : Legible .whole (.expr e 100 100) text ts 0) : Legible .whole (.expr e 1 0) text ts 0 :=
    h.loosen (by decide) (by decide)
  have none {α : Type} {P : α → Prop} : ∀ x ∈ ([] : List α), P x := List.forall_mem_nil _
  have nothing {α : Type} {P : α → Prop} : ∀ x ∈ (Option.none : Option α), P x := by simp
  let call : Invocation := {
    name := .ofName "f"
    args := [⟨.expr (.ident ⟨"a", .none⟩), "a", [nameToken "a"]⟩,
      ⟨.expr (.literal (.placeholder "$1")), "$1", [.placeholder "$1"]⟩] }
  have called : Legible .whole (.expr (.call call.tree) 100 100) call.text call.tokens 2 :=
    .call (Word.spelled_ofName "f") (by decide +kernel) (by decide +kernel) rfl
      (List.forall_mem_cons.mpr ⟨.argument (left a) rfl,
        List.forall_mem_singleton.mpr (.argument (left marker) rfl)⟩)
      (List.forall_mem_cons.mpr ⟨by decide +kernel, List.forall_mem_singleton.mpr rfl⟩)
      none none nothing (fun e => absurd e (List.cons_ne_nil _ _)) (.inl rfl)
  let table : Relation := { name := .ofName "t" }
  have source : Legible .whole (.source table.tree) table.text table.tokens 0 :=
    .source (.table (by simp [table, Word.Rendered]) (by decide) (by decide +kernel) rfl nothing)
  let selection : Selection := {
    items := [⟨.expr (.ident ⟨"b", .none⟩), "b", [nameToken "b"]⟩]
    from_ := [⟨table.tree, table.text, table.tokens⟩] }
  have selected :
      Legible .whole (.term (.select selection.tree)) selection.text selection.tokens 1 :=
    .selection (by rintro _ ⟨⟩) (by rintro _ ⟨⟩) (List.cons_ne_nil _ _)
      (List.forall_mem_singleton.mpr (.item (left b) rfl))
      (List.forall_mem_singleton.mpr ⟨_, _, rfl, by decide +kernel⟩)
      (fun e => absurd e (List.cons_ne_nil _ _))
      (List.forall_mem_singleton.mpr (source.deepen (by decide))) nothing none none nothing
  let request : Request := { body := ⟨.select selection.tree, selection.text, selection.tokens⟩ }
  have queried : Legible .whole (.query request.tree) request.text request.tokens 2 :=
    .query none none (fun _ => rfl) (.body selected) (by decide +kernel) none nothing nothing rfl
  have rows := Legible.subquery queried ⟨_, _, rfl, by decide +kernel⟩
  have plus : symbolStrength "+" = 30 := rfl
  have equals : symbolStrength "=" = 20 := rfl
  have added := Legible.symbol "+" (by decide) (.bare rows (by decide +kernel)) (by decide)
    (.bare c (by decide +kernel)) (by decide)
  have tested : Legible .whole _ _ _ 2 := .isNull false (.bare called (by decide +kernel)) (by decide)
  have compared := Legible.symbol "=" (by decide) (.bare tested (by decide +kernel)) (by decide)
    (.enclosedSide (added.loosen (by decide) (by decide)) (by decide +kernel)) (by decide)
  have rowsNode : request.tree.toNode = query := by
    rw [request.toNode_tree rfl (selection.toNode_tree) (by decide +kernel)]
    cbv
  have callNode :
      call.tree.toNode = .call { name := "f", args := [column "a", .const (.param "$1")] } := by
    rw [call.toNode_tree rfl (.inl rfl)]
    cbv
  have node : (Expr.binary (.isNull (.call call.tree) false) "="
      (.nested (.binary (.subquery request.tree) "+" (.ident (Word.ofName "c").ident)))).toNode = n := by
    simp only [Expr.toNode, rowsNode, callNode]
    cbv
  have whole : Legible .whole (.expr _ 1 0) _ _ 5 :=
    (compared.loosen (by decide) (by decide)).deepen (by decide)
  exact ⟨_, _, application_read_back whole (congrArg Node.regrouped node) rfl⟩

-- A test is not enclosed where it is an operand itself: the text of `b = (a IS NULL)` is
-- `b = a IS NULL`, which tests a comparison.
theorem application_not_read_back : ¬∀ text S (p : Path) o, Node.ofSql .generic text = .ok S →
    p.node? S = some o → o.isApplication →
    ∃ s S' o', Renderer.sql S = .ok s ∧ Node.ofSql .generic s = .ok S' ∧ p.node? S' = some o' ∧
      o.SameApplication o' := by
  intro readsBack
  let text := "SELECT b = (a IS NULL)"
  let p : Path := ⟨0, [⟨.targetList, some 0⟩, ⟨.val, none⟩]⟩
  let rendered := (Node.ofSql .generic text).toOption.bind fun S => (Renderer.sql S).toOption
  have before : ((Node.ofSql .generic text).toOption.bind p.node?).bind Node.operatorKind? =
      some .op := by decide +kernel
  have after : ((rendered.bind fun s => (Node.ofSql .generic s).toOption).bind p.node?).bind
      Node.operatorKind? = none := by decide +kernel
  obtain ⟨o, found, kind⟩ := Option.bind_eq_some_iff.mp before
  obtain ⟨S, h, ho⟩ := Except.exists_of_bind found
  have applied : o.isApplication := by
    cases o
    case operator => simp_all [Node.operatorKind?, Node.isApplication, OperatorKind.isConnective]
    all_goals cases kind
  obtain ⟨s, S', o', hs, hS', ho', same⟩ := readsBack text S p o h ho applied
  simp [rendered, h, hs, hS', ho', same.operatorKind? ▸ kind, Except.toOption] at after

end Sql

end SqlLens
