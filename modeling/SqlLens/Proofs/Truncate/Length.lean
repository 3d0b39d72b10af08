import SqlLens.Proofs.Truncate.Growth
import SqlLens.Proofs.Truncate.Inventory
import SqlLens.Proofs.Truncate.Marker

namespace SqlLens

open Truncate

namespace Candidate

-- The length of the part without the words that it is measured with.
def ownLength (c : Candidate) : Nat := c.length - if c.kind = .whereClause then 13 else 0

-- How much longer a marker is than the part.
def excess (c : Candidate) : Nat := Render.marker.length - c.ownLength

-- The part stands in the tree, with a text that is as long as the part was measured, or has room for a
-- marker.
structure Stands (T : List Node) (c : Candidate) : Prop where
  exists_node : ∃ n steps slot, T[c.location.statement]? = some n ∧
    c.location.steps = steps ++ [⟨slot, none⟩] ∧
    n.Stands steps slot c.kind c.isSequence (min Render.marker.length c.ownLength)

variable {S T T' : List Node} {cs marks : List Candidate} {c d : Candidate}

-- What is measured has a text.
theorem text_of_measure {content : Child} (h : c.kind.measure content = .ok c.length) :
    (∀ n ∈ content.nodes, n.HasText) ∧ c.ownLength ≤ content.text.length := by
  unfold ownLength
  cases content
  case one n =>
    obtain ⟨t, ht, e⟩ := Except.bind_eq_ok_iff.mp h
    obtain ⟨hasText, rfl⟩ := Render.node_eq_ok_iff.mp ht
    have length := Except.ok.inj e
    refine ⟨by simpa [Child.nodes] using hasText, ?_⟩
    rw [← length, Nat.add_sub_cancel]
    exact Nat.le_refl _
  case many ns =>
    obtain ⟨ts, ht, e⟩ := Except.bind_eq_ok_iff.mp h
    obtain ⟨hasText, rfl⟩ := Render.list_eq_ok_iff.mp ht
    have length := Except.ok.inj e
    refine ⟨hasText, ?_⟩
    rw [← length]
    exact Nat.sub_le _ _

theorem stands_of_mem (h : possibleTruncations Renderer.sql S = .ok cs) (hc : c ∈ cs) :
    Stands S c := by
  have ⟨inv, lengths⟩ := inventory h
  obtain ⟨⟨q, slot, hl⟩, _⟩ := leadsTo_of_mem_possibleTruncations h hc
  obtain ⟨content, hr, form⟩ := inv.resolved c hc
  obtain ⟨m, hm, _, hk⟩ := (inv.located q slot c.kind).mp ⟨c, hc, hl, rfl⟩
  obtain ⟨texts, long⟩ := text_of_measure (lengths rfl c hc content hr)
  obtain ⟨n, hn, hm'⟩ := Option.bind_eq_some_iff.mp hm
  rw [hl, Path.resolve?_child hm, Node.content?_slot] at hr
  exact ⟨n, q.steps, slot, by simpa [hl, Path.child] using hn, by simp [hl, Path.child], m, content,
    hm', hk, hr, form, texts, by omega⟩

-- A part that stands in the tree can be replaced.
theorem Stands.exists_refilled (st : Stands T c) : ∃ n n' steps slot,
    T[c.location.statement]? = some n ∧ c.location.steps = steps ++ [⟨slot, none⟩] ∧
      n.Refilled c.location.name c.replacement c.excess steps slot n' ∧
      c.location.replace T c.replacement = .ok (T.set c.location.statement n') := by
  obtain ⟨n, steps, slot, hn, hs, m, content, hm, hk, hc, form, _, long⟩ := st
  have hl : c.location = Path.child ⟨c.location.statement, steps⟩ slot none := by
    rw [Path.child, ← hs]
  have resolved : Path.resolve? ⟨c.location.statement, steps⟩ T = some (.one m) :=
    Option.bind_eq_some_iff.mpr ⟨n, hn, hm⟩
  have leads : c.location.LeadsTo T c.isSequence :=
    ⟨⟨_, slot, hl⟩, content, by rw [hl, Path.resolve?_child resolved, Node.content?_slot, hc], form⟩
  obtain ⟨T', e⟩ := exists_replace leads
  obtain ⟨k, n', hk', replaced, rfl⟩ := Path.replace_ok_iff.mp e
  cases hn.symm.trans hk'
  have marker : c.replacement = Node.marker content := by rw [replacement, Node.marker, form]
  refine ⟨n, n', steps, slot, hn, hs, ⟨hs ▸ replaced, c.hasText_replacement, m, hm, ?_⟩, e⟩
  intro m' filled
  refine (Node.grown_of_omission hk hc (marker ▸ filled)).mono ?_
  unfold excess
  omega

-- Parts that lie no deeper still stand in the tree when another one is replaced.
theorem Stands.of_replace (st : Stands T c) (sd : Stands T d)
    (e : d.location.replace T d.replacement = .ok T')
    (deep : c.location.depth ≤ d.location.depth) (other : c.location ≠ d.location) :
    Stands T' c := by
  obtain ⟨m, m', dsteps, dslot, hm, hd, refilled, e'⟩ := sd.exists_refilled
  obtain ⟨n, steps, slot, hn, hs, stands⟩ := st
  cases e.symm.trans e'
  by_cases same : d.location.statement = c.location.statement
  case neg => exact ⟨n, steps, slot, by rw [List.getElem?_set_ne same, hn], hs, stands⟩
  case pos =>
    rw [same] at hm ⊢
    cases hm.symm.trans hn
    have ⟨hi, _⟩ := List.getElem?_eq_some_iff.mp hn
    refine ⟨m', steps, slot, by simp [hi], hs, stands.of_refilled (Nat.min_le_left _ _) refilled ?_ ?_⟩
    case refine_1 =>
      rw [Path.depth, Path.depth, hs, hd] at deep
      simpa using deep
    case refine_2 =>
      rintro rfl rfl
      apply other
      rw [Path.mk.injEq]
      exact ⟨same.symm, hs.trans hd.symm⟩

-- By induction on the parts that are replaced first.
theorem exists_mark_succ (hs : marks.Pairwise fun a b => b.location.depth ≤ a.location.depth)
    (distinct : (marks.map location).Nodup) (st : ∀ c ∈ marks, Stands T c)
    (hc : marks[k]? = some c) : ∃ T₁ T₂, mark T (marks.take k) = .ok T₁ ∧ Stands T₁ c ∧
      c.location.replace T₁ c.replacement = .ok T₂ ∧ mark T (marks.take (k + 1)) = .ok T₂ := by
  induction marks generalizing T k
  case nil => simp at hc
  case cons d rest hi =>
    obtain ⟨hd, st⟩ := List.forall_mem_cons.mp st
    obtain ⟨n, n', _, _, _, _, _, e⟩ := hd.exists_refilled
    cases k
    case zero =>
      cases hc
      exact ⟨T, _, rfl, hd, e, by simp [mark, e]⟩
    case succ k =>
      obtain ⟨deep, hs⟩ := List.pairwise_cons.mp hs
      rw [List.map_cons, List.nodup_cons] at distinct
      have st' : ∀ c ∈ rest, Stands (T.set d.location.statement n') c := fun c hc =>
        (st c hc).of_replace hd e (deep c hc) fun same =>
          distinct.1 (same ▸ List.mem_map_of_mem hc)
      obtain ⟨T₁, T₂, h₁, stands, replaced, h₂⟩ := hi hs distinct.2 st' hc
      exact ⟨T₁, T₂, by simpa [mark, e] using h₁, stands, replaced, by simpa [mark, e] using h₂⟩

end Candidate

namespace Truncate

variable {S : List Node} {cs : List Candidate} {c : Candidate} {text : String}

-- Every text on the way of the search is no longer than the one before, unless a condition has been
-- replaced that is shorter than a marker.
theorem length_textAfter_succ (full : Renderer.sql S = .ok text)
    (measured : possibleTruncations Renderer.sql S = .ok cs) (hc : (schedule cs)[k]? = some c) :
    ∃ s s', textAfter Renderer.sql S (schedule cs) k = .ok s ∧
      textAfter Renderer.sql S (schedule cs) (k + 1) = .ok s' ∧
      s'.length ≤ s.length + if c.kind = .whereClause then 16 - c.length else 0 := by
  have sched := schedule_scheduled cs
  have mem (c) (hc : c ∈ schedule cs) := List.mem_filter.mp (sched.perm.mem_iff.mp hc)
  have distinct : ((schedule cs).map Candidate.location).Nodup :=
    (sched.perm.map _).nodup_iff.mpr
      ((Candidate.inventory measured).1.distinct.sublist (List.filter_sublist.map _))
  obtain ⟨T₁, T₂, h₁, stands, e, h₂⟩ := Candidate.exists_mark_succ (sched.sorted.imp (by omega))
    distinct (fun c hc => Candidate.stands_of_mem measured (mem c hc).1) hc
  obtain ⟨s, hs⟩ := exists_sql_of_mark full h₁
  obtain ⟨s', hs'⟩ := exists_sql_of_mark full h₂
  obtain ⟨n, n', steps, slot, hn, _, refilled, e'⟩ := stands.exists_refilled
  cases e.symm.trans e'
  have grown := (grown_sql_of_set hn refilled.grown hs hs').length_le
  refine ⟨s, s', by simp [textAfter, h₁, hs], by simp [textAfter, h₂, hs'], ?_⟩
  have long : 3 ≤ c.length := by simpa using (mem c (List.mem_of_getElem? hc)).2
  have marker : Render.marker.length = 3 := rfl
  unfold Candidate.excess Candidate.ownLength at grown
  split <;> simp_all
  omega

-- The query behind a name, after two parts inside it.
theorem length_textAfter_succ_nested :
    let column (name : String) : Node := .column ⟨[name]⟩
    let inner : Node := .select {
      targetList := [.target { val := some (column "abc") }]
      whereClause := some (column "a") }
    let S : List Node := [.select {
      withClause := some (.with ⟨false, [.cte ⟨"c", [], inner⟩]⟩)
      targetList := [.target { val := some (column "x") }] }]
    let c : Candidate :=
      ⟨⟨0, [⟨.withClause, none⟩, ⟨.ctes, some 0⟩, ⟨.ctequery, none⟩]⟩, .cteQuery, 18, false⟩
    ∃ text cs, Renderer.sql S = .ok text ∧ possibleTruncations Renderer.sql S = .ok cs ∧
      (schedule cs)[2]? = some c ∧ ∃ s s', textAfter Renderer.sql S (schedule cs) 2 = .ok s ∧
        textAfter Renderer.sql S (schedule cs) 3 = .ok s' ∧ s'.length ≤ s.length := by
  intro column inner S c
  let p : Path := ⟨0, [⟨.withClause, none⟩, ⟨.ctes, some 0⟩, ⟨.ctequery, none⟩]⟩
  let cs : List Candidate := [
    c, ⟨p.child .targetList none, .targetList, 3, true⟩,
    ⟨p.child .whereClause none, .whereClause, 14, false⟩,
    ⟨⟨0, [⟨.targetList, none⟩]⟩, .targetList, 1, true⟩]
  have full : Renderer.sql S = .ok "WITH c AS (SELECT abc WHERE a) SELECT x" := by cbv
  have measured : possibleTruncations Renderer.sql S = .ok cs := by cbv
  have third : (schedule cs)[2]? = some c := by cbv
  exact ⟨_, cs, full, measured, third, length_textAfter_succ full measured third⟩

-- A condition of one character becomes longer.
theorem short_condition_lengthened : ¬∀ S text cs k c, Renderer.sql S = .ok text →
    possibleTruncations Renderer.sql S = .ok cs → (schedule cs)[k]? = some c →
    ∀ s s', textAfter Renderer.sql S (schedule cs) k = .ok s →
      textAfter Renderer.sql S (schedule cs) (k + 1) = .ok s' → s'.length ≤ s.length := by
  intro shorter
  let S : List Node := [.select {
    targetList := [.target { val := some (.column ⟨["x"]⟩) }]
    fromClause := [.table { name := "t" }]
    whereClause := some (.column ⟨["a"]⟩) }]
  let c : Candidate := ⟨⟨0, [⟨.whereClause, none⟩]⟩, .whereClause, 14, false⟩
  let cs : List Candidate := [⟨⟨0, [⟨.targetList, none⟩]⟩, .targetList, 1, true⟩, c]
  have full : Renderer.sql S = .ok "SELECT x FROM t WHERE a" := by cbv
  have measured : possibleTruncations Renderer.sql S = .ok cs := by cbv
  have first : (schedule cs)[0]? = some c := by cbv
  have before : textAfter Renderer.sql S (schedule cs) 0 = .ok "SELECT x FROM t WHERE a" := by cbv
  have after : textAfter Renderer.sql S (schedule cs) 1 = .ok "SELECT x FROM t WHERE ..." := by cbv
  exact absurd (shorter S _ cs 0 c full measured first _ _ before after) (by decide)

end Truncate

end SqlLens
