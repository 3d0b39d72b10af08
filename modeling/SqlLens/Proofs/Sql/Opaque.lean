import Mathlib
import SqlLens.Proofs.Except
import SqlLens.Proofs.Sql.Statement

namespace SqlLens.Path

open SqlLens.Sql

-- The construct at the path that is kept as text.
def other? (p : Path) (S : List Node) : Option Other :=
  match p.resolve? S with
  | some (.one (.other o)) => some o
  | _ => none

variable {p : Path} {S : List Node} {o : Other}

-- A construct that is kept as text reads back in its slot if its text is a spelling of it there: as
-- an item of a list, and beside an operator if it binds tightly enough. The trees around it read
-- back as they were, so no clause of it has gone to one of them.
theorem opaque_read_back (each : ∀ n ∈ S, Recovers n) (hp : p.other? S = some o) :
    ∃ s S', Renderer.sql S = .ok s ∧ Node.ofSql .generic s = .ok S' ∧ S' = S ∧
      p.other? S' = some o := by
  have ⟨s, hs, read⟩ := exists_sql_read each
  exact ⟨s, S, hs, read, rfl, hp⟩

-- `SELECT f(k => b) FROM g(a) ORDER BY a ASC WITH FILL`, with an argument, a source and an item of
-- the order that are kept as text.
theorem opaque_read_back_order :
    let ordered : Node := .select {
      targetList := [.target ⟨none, some (.call {
        name := "f", args := [.other ⟨"FunctionArg", some "k => b"⟩] })⟩]
      fromClause := [.other ⟨"TableFactor", some "g(a)"⟩]
      sortClause := [.other ⟨"OrderByExpr", some "a ASC WITH FILL"⟩] }
    let p : Path := ⟨0, [⟨.sortClause, some 0⟩]⟩
    ∃ s S', Renderer.sql [ordered] = .ok s ∧ Node.ofSql .generic s = .ok S' ∧ S' = [ordered] ∧
      p.other? S' = some ⟨"OrderByExpr", some "a ASC WITH FILL"⟩ := by
  intro ordered p
  have a := Legible.name "a" (by decide +kernel) (by decide)
  have b := Legible.name "b" (by decide +kernel) (by decide)
  have left {e : Expr} {text : String} {ts : List Token}
      (h : Legible .whole (.expr e 100 100) text ts 0) : Legible .whole (.expr e 1 0) text ts 0 :=
    h.loosen (by decide) (by decide)
  have none {α : Type} {P : α → Prop} : ∀ x ∈ ([] : List α), P x := List.forall_mem_nil _
  have nothing {α : Type} {P : α → Prop} : ∀ x ∈ (Option.none : Option α), P x := by simp
  let argument : Entry Item := {
    tree := .phrase (Phrase.ident (Word.ofName "k").ident ++ Phrase.words " => " ++
      Phrase.expr (.ident (Word.ofName "b").ident))
    text := "k => b"
    tokens := [(Word.ofName "k").token, .symbol "=>", (Word.ofName "b").token] }
  have labelled : Legible .whole (.argument argument.tree) argument.text argument.tokens 1 :=
    .kept (.namedArgument (Word.spelled_ofName "k") (left b).spelled) rfl (by cbv)
  let call : Invocation := { name := .ofName "f", args := [argument] }
  have called : Legible .whole (.expr (.call call.tree) 100 100) call.text call.tokens 2 :=
    .call (Word.spelled_ofName "f") (by decide +kernel) (by decide +kernel) rfl
      (List.forall_mem_singleton.mpr labelled)
      (List.forall_mem_singleton.mpr (by decide +kernel)) none none nothing
      (fun e => absurd e (List.cons_ne_nil _ _)) (.inl rfl)
  let table : Relation := {
    name := .ofName "g"
    args := some [⟨.expr (.ident (Word.ofName "a").ident), "a", [(Word.ofName "a").token]⟩] }
  have source : Legible .whole (.factor table.tree) table.text table.tokens 1 := by
    refine .kept (.relation ?_ (by decide +kernel) ?_ ?_ nothing) rfl (by cbv)
    · simp [table, Word.spelled_ofName]
    · rintro _ ⟨⟩
      exact List.forall_mem_singleton.mpr (.argument (left a).spelled rfl)
    · rintro _ ⟨⟩
      exact List.forall_mem_singleton.mpr ⟨_, _, rfl, by decide +kernel⟩
  let order : Order := {
    key := ⟨.ident (Word.ofName "a").ident, "a", [(Word.ofName "a").token]⟩
    asc := some true
    filling := some {} }
  have sorted : Legible .whole (.order order.tree) order.text order.tokens 1 := by
    refine .kept (.order ?_ ?_) rfl (by cbv)
    · exact List.forall_mem_singleton.mpr (left a).spelled
    · exact fun _ => .inl rfl
  let selection : Selection := {
    items := [⟨.expr (.call call.tree), call.text, call.tokens⟩]
    from_ := [⟨table.tree, table.text, table.tokens⟩] }
  have selected :
      Legible .whole (.term (.select selection.tree)) selection.text selection.tokens 3 :=
    .selection (by rintro _ ⟨⟩) (by rintro _ ⟨⟩) (List.cons_ne_nil _ _)
      (List.forall_mem_singleton.mpr (.item (called.loosen (by decide) (by decide)) rfl))
      (List.forall_mem_singleton.mpr ⟨_, _, rfl, by decide +kernel⟩)
      (fun e => absurd e (List.cons_ne_nil _ _))
      (List.forall_mem_singleton.mpr (.source (source.deepen (by decide)))) nothing none none
      nothing
  let request : Request := {
    body := ⟨.select selection.tree, selection.text, selection.tokens⟩
    order := [⟨order.tree, order.text, order.tokens⟩] }
  have queried : Legible .whole (.query request.tree) request.text request.tokens 4 :=
    .query none none (fun _ => rfl) (.body selected) (by decide +kernel)
      (List.forall_mem_singleton.mpr (sorted.deepen (by decide))) nothing nothing rfl
  have node : request.tree.toNode = ordered := by
    rw [request.toNode_tree rfl selection.toNode_tree (by decide +kernel)]
    cbv
  have each : ∀ n ∈ [ordered], Recovers n :=
    List.forall_mem_singleton.mpr ⟨_, _, _, _, queried, by decide, node⟩
  exact opaque_read_back each rfl

-- Without parentheses around it the arm of a union does not read back as one: its lock goes to the
-- whole.
theorem opaque_not_read_back : ¬∀ text S (p : Path) o, Node.ofSql .generic text = .ok S →
    ¬p.isRoot → p.other? S = some o →
    ∃ s S', Renderer.sql S = .ok s ∧ Node.ofSql .generic s = .ok S' ∧ p.other? S' = some o := by
  intro readsBack
  let text := "SELECT a FROM t UNION (SELECT a FROM t FOR UPDATE)"
  let p : Path := ⟨0, [⟨.rarg, none⟩]⟩
  let rendered := (Node.ofSql .generic text).toOption.bind fun S => (Renderer.sql S).toOption
  have before : (Node.ofSql .generic text).toOption.bind p.other? =
      some ⟨"Query", some "SELECT a FROM t FOR UPDATE"⟩ := by decide +kernel
  have after : (rendered.bind fun s => (Node.ofSql .generic s).toOption.bind p.other?) = none := by
    decide +kernel
  obtain ⟨S, h, ho⟩ := Except.exists_of_bind before
  obtain ⟨s, S', hs, hS', ho'⟩ := readsBack text S p _ h (by decide) ho
  simp [rendered, h, hs, hS', ho', Except.toOption] at after

end SqlLens.Path
