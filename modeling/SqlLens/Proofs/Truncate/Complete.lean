import SqlLens.Proofs.Sql.Regular
import SqlLens.Proofs.Truncate.Marker

namespace SqlLens

open Truncate

variable {S : List Node}

-- The wrapper in which a part is measured lacks nothing if the part does.
theorem Candidate.complete_measured {p : Part} (h : ∀ n ∈ S, n.Complete) (hp : p ∈ parts S) :
    ∀ n ∈ p.measured, n.Complete := by
  obtain ⟨s, w, hp⟩ := exists_within_of_mem_parts hp
  have parent := Path.throughout_of_resolve? h w.parent
  have inner : ∀ n ∈ s.child.nodes, n.Complete := fun n hn =>
    parent.child (List.mem_flatMap.mpr ⟨_, w.child, hn⟩)
  unfold Site.part? at hp
  split at hp
  case h_5 => cases hp
  all_goals
    rename_i hc
    cases hp
    rw [hc] at inner
  case h_1 =>
    refine List.forall_mem_singleton.mpr (.intro ⟨rfl, by simp⟩ ?_)
    simpa [Node.offspring_eq, Child.nodes] using inner
  case h_2 =>
    refine List.forall_mem_singleton.mpr (.intro ⟨rfl, by simp⟩ ?_)
    simpa [Node.offspring_eq, Child.nodes] using inner
  all_goals exact inner

theorem exists_possibleTruncations (h : ∀ n ∈ S, n.Complete) :
    ∃ cs, possibleTruncations Renderer.sql S = .ok cs := by
  cases e : possibleTruncations Renderer.sql S
  case ok cs => exact ⟨cs, rfl⟩
  case error =>
    have ⟨pre, p, post, hp, hm, _⟩ := Except.exists_of_mapM_eq_error e
    have ⟨s, hs⟩ := Node.exists_sql (Candidate.complete_measured h (p := p) (by simp [hp]))
    cases hs ▸ render_of_measure_error hm

theorem Truncate.exists_truncate (h : ∀ n ∈ S, n.Complete) (m : Nat) :
    ∃ s, truncate Renderer.sql S m = .ok s := by
  obtain ⟨_, full⟩ := Node.exists_sql h
  obtain ⟨_, measured⟩ := exists_possibleTruncations h
  exact exists_truncate_of_measured full measured m

-- Whatever is parsed has a text, can be measured and can be fitted into any number of characters.
theorem Truncate.never_fails_on_parsed (h : Node.ofSql d text = .ok S) (m : Nat) :
    (∃ s, Renderer.sql S = .ok s) ∧ (∃ cs, possibleTruncations Renderer.sql S = .ok cs) ∧
    ∃ s, truncate Renderer.sql S m = .ok s := by
  have complete : ∀ n ∈ S, n.Complete := fun n hn => (Node.proper_of_ofSql h n hn).complete
  exact ⟨Node.exists_sql complete, exists_possibleTruncations complete,
    exists_truncate complete m⟩

-- A condition with a range and a query, and arguments that are measured but not written.
theorem Truncate.never_fails_on_parsed_query :
    let text := "SELECT count(*, (SELECT 1)) FROM t WHERE a BETWEEN 1 AND 2 AND b NOT IN (SELECT c FROM u)"
    ∃ S, Node.ofSql .generic text = .ok S ∧ (∃ s, Renderer.sql S = .ok s) ∧
      (∃ cs, possibleTruncations Renderer.sql S = .ok cs) ∧
      ∃ s, truncate Renderer.sql S 20 = .ok s := by
  intro text
  have parsed : (Node.ofSql .generic text).toOption.isSome := by decide +kernel
  obtain ⟨S, h⟩ := Except.exists_of_isSome parsed
  exact ⟨S, h, never_fails_on_parsed h 20⟩

end SqlLens
