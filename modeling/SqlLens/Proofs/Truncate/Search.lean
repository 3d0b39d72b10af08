import Mathlib
import SqlLens.Proofs.Truncate.Candidate
import SqlLens.Proofs.Truncate.Schedule

namespace SqlLens.Truncate

-- The statements with the marker in place of the parts, put there one after the other.
def mark (S : List Node) : List Candidate → Except PathFault (List Node)
  | [] => .ok S
  | c :: rest => do mark (← c.location.replace S c.replacement) rest

-- The text of the statements with the first `k` parts replaced.
def textAfter (render : Renderer) (S : List Node) (cs : List Candidate) (k : Nat) :
    Except Error String := do
  render (← (mark S (cs.take k)).mapError .path)

def Fits (render : Renderer) (S : List Node) (cs : List Candidate) (m k : Nat) : Prop :=
  ∃ text, textAfter render S cs k = .ok text ∧ text.length ≤ m

def Overlong (render : Renderer) (S : List Node) (cs : List Candidate) (m k : Nat) : Prop :=
  ∃ text, textAfter render S cs k = .ok text ∧ m < text.length

-- What has been looked at when a search ends: all texts before the last one were too long.
def Searched (render : Renderer) (S : List Node) (cs : List Candidate) (m : Nat) :
    Except Error (Option String) → Prop
  | .ok none => ∀ j < cs.length, Overlong render S cs m (j + 1)
  | .ok (some s) => ∃ k < cs.length, textAfter render S cs (k + 1) = .ok s ∧ s.length ≤ m ∧
      ∀ j < k, Overlong render S cs m (j + 1)
  | .error e => ∃ k < cs.length, textAfter render S cs (k + 1) = .error e ∧
      ∀ j < k, Overlong render S cs m (j + 1)

-- The lists whose text a truncation asks for, each of them if it gets that far: the statements
-- themselves, the parts to be measured, and the statements after each replacement.
inductive Asked (render : Renderer) (S : List Node) (m : Nat) : List Node → Prop
  | whole : Asked render S m S
  | part (full : render S = .ok text) (long : m < text.length)
      (next : Candidate.parts S = pre ++ part :: post)
      (measured : ∀ p ∈ pre, ∃ t, render p.measured = .ok t) : Asked render S m part.measured
  | marked (full : render S = .ok text) (long : m < text.length)
      (found : possibleTruncations render S = .ok candidates)
      (next : k < (schedule candidates).length)
      (overlong : ∀ j < k, Overlong render S (schedule candidates) m (j + 1))
      (marked : mark S ((schedule candidates).take (k + 1)) = .ok T) : Asked render S m T

-- What a text with `m` characters to spend can be: all of it, what is left with `k` parts replaced,
-- or a cut.
inductive Outcome where
  | whole
  | marked (k : Nat)
  | cut

-- `text` is longer than `m` characters, and `cs` are the parts to replace in their order.
structure Narrowed (render : Renderer) (S : List Node) (m : Nat) (text : String)
    (cs : List Candidate) : Prop where
  full  : render S = .ok text
  long  : m < text.length
  parts : ∃ candidates, possibleTruncations render S = .ok candidates ∧ Scheduled candidates cs

-- When the outcome is the one of `s`.
def Outcome.Yields (render : Renderer) (S : List Node) (m : Nat) (s : String) : Outcome → Prop
  | .whole => render S = .ok s ∧ s.length ≤ m
  | .marked k => ∃ text cs, Narrowed render S m text cs ∧ textAfter render S cs k = .ok s ∧
      IsLeast { k | 1 ≤ k ∧ k ≤ cs.length ∧ Fits render S cs m k } k
  | .cut => ∃ text cs, Narrowed render S m text cs ∧
      (∀ k, 1 ≤ k → k ≤ cs.length → ¬Fits render S cs m k) ∧
      s.toList = text.toList.take (m - 3) ++ ['.', '.', '.']

variable {render : Renderer} {S S' T : List Node} {c : Candidate}
  {cs rest candidates : List Candidate} {p : Path} {m k : Nat}

theorem Overlong.not_fits (h : Overlong render S cs m k) : ¬Fits render S cs m k := by
  intro ⟨text, ht, hf⟩
  have ⟨text', ht', hl⟩ := h
  cases ht ▸ ht'
  omega

theorem not_fits_of_overlong (h : ∀ j < k, Overlong render S cs m (j + 1)) (pos : 1 ≤ i)
    (le : i ≤ k) : ¬Fits render S cs m i := by
  have long := h (i - 1) (by omega)
  rw [Nat.sub_add_cancel pos] at long
  exact long.not_fits

-- The marker goes wherever a location leads.
theorem exists_replace (h : c.location.LeadsTo S c.isSequence) :
    ∃ S', c.location.replace S c.replacement = .ok S' := by
  have ⟨⟨q, slot, hq⟩, child, hc, hf⟩ := h
  have self := Path.replace_self hc (by simp [hq, Path.isRoot, Path.child])
  apply Path.replace_of_form self
  cases child <;> simp_all [Candidate.replacement, Child.isMany, Child.replacement,
    Replacement.isSequence, ← hf]

-- What is replaced first lies at least as deep, so it takes no later location away.
theorem leadsTo_of_replace (e : c.location.replace S c.replacement = .ok S')
    (hd : p.depth ≤ c.location.depth) (h : p.LeadsTo S many) : p.LeadsTo S' many := by
  have ⟨⟨q, slot, hq⟩, child, hc, hf⟩ := h
  have marker : c.replacement.child? ≠ none := by
    unfold Candidate.replacement
    split <;> simp [Replacement.child?]
  have last : ∀ t ∈ p.steps.getLast?, t.index = none := by simp [hq, Path.child]
  obtain ⟨child', hc', hf'⟩ := Path.replace_preserves_form e marker hd last hc
  exact ⟨⟨q, slot, hq⟩, child', hc', hf' ▸ hf⟩

-- Whenever some of the parts are replaced, the locations of the others still lead to their slots.
theorem exists_mark (hs : cs.Pairwise fun a b => b.location.depth ≤ a.location.depth)
    (hl : ∀ c ∈ cs, c.location.LeadsTo S c.isSequence) (k : Nat) :
    ∃ T, mark S (cs.take k) = .ok T ∧ ∀ c ∈ cs.drop k, c.location.LeadsTo T c.isSequence := by
  induction cs generalizing S k
  case nil => exact ⟨S, by simp [mark], by simp⟩
  case cons c rest hi =>
    cases k
    case zero => exact ⟨S, rfl, hl⟩
    case succ k =>
      have ⟨hc, hl⟩ := List.forall_mem_cons.mp hl
      have ⟨hd, hs⟩ := List.pairwise_cons.mp hs
      have ⟨S', e⟩ := exists_replace hc
      have ⟨T, hT, ht⟩ := hi hs (fun a ha => leadsTo_of_replace e (hd a ha) (hl a ha)) k
      exact ⟨T, by simpa [mark, e] using hT, ht⟩

theorem exists_mark_schedule (h : possibleTruncations render S = .ok candidates) (k : Nat) :
    ∃ T, mark S ((schedule candidates).take k) = .ok T ∧
      ∀ c ∈ (schedule candidates).drop k, c.location.LeadsTo T c.isSequence := by
  have sched := schedule_scheduled candidates
  apply exists_mark
  · exact sched.sorted.imp (by omega)
  · intro c hc
    have hc := List.mem_of_mem_filter (sched.perm.mem_iff.mp hc)
    exact leadsTo_of_mem_possibleTruncations h hc

theorem textAfter_cons (e : c.location.replace S c.replacement = .ok S') (k : Nat) :
    textAfter render S (c :: rest) (k + 1) = textAfter render S' rest k := by
  simp [textAfter, mark, e]

theorem textAfter_one (e : c.location.replace S c.replacement = .ok S') :
    textAfter render S (c :: rest) 1 = render S' := by
  rw [textAfter_cons e]
  rfl

-- A text that is too long leaves the matter to the rest of the parts.
theorem Searched.cons (e : c.location.replace S c.replacement = .ok S')
    (first : Overlong render S (c :: rest) m 1) (h : Searched render S' rest m result) :
    Searched render S (c :: rest) m result := by
  have before {k : Nat} (h : ∀ j < k, Overlong render S' rest m (j + 1)) :
      ∀ j < k + 1, Overlong render S (c :: rest) m (j + 1) := by
    refine Nat.forall_lt_succ_left.mpr ⟨first, ?_⟩
    simpa only [Overlong, textAfter_cons e] using h
  match result with
  | .ok none => exact before h
  | .ok (some s) =>
    have ⟨k, hk, ht, hs, hj⟩ := h
    exact ⟨k + 1, Nat.succ_lt_succ hk, textAfter_cons e _ ▸ ht, hs, before hj⟩
  | .error e' =>
    have ⟨k, hk, ht, hj⟩ := h
    exact ⟨k + 1, Nat.succ_lt_succ hk, textAfter_cons e _ ▸ ht, before hj⟩

theorem search_searched (render : Renderer) (m : Nat) (cs : List Candidate) (S : List Node) :
    Searched render S cs m (search render m cs S) := by
  induction cs generalizing S
  case nil => simp [search, Searched]
  case cons c rest hi =>
    unfold search
    cases e : c.location.replace S c.replacement
    case error f => exact ⟨0, by simp, by simp [textAfter, mark, e], by simp⟩
    case ok S' =>
      have one : textAfter render S (c :: rest) 1 = render S' := textAfter_one e
      cases ht : render S' <;> simp only [Except.mapError_ok, Except.ok_bind, ht]
      case error f => exact ⟨0, by simp, one.trans ht, by simp⟩
      case ok text =>
        split
        case isTrue hl => exact ⟨0, by simp, one.trans ht, hl, by simp⟩
        case isFalse hl =>
          have first : Overlong render S (c :: rest) m 1 := ⟨text, one.trans ht, by omega⟩
          exact (hi S').cons e first

theorem truncate_of_fits (hr : render S = .ok text) (hl : text.length ≤ m) :
    truncate render S m = .ok text := by
  simp [truncate, hr, hl]

-- What a truncation comes to if the full text is too long.
theorem truncate_eq_of_search (full : render S = .ok text) (long : m < text.length)
    (found : possibleTruncations render S = .ok cs)
    (searched : search render m (schedule cs) S = .ok r) :
    truncate render S m = .ok (r.getD (hardCut text m)) := by
  have long : ¬text.length ≤ m := by omega
  cases r <;> simp [truncate, full, long, found, searched]

theorem search_of_truncate_ok (hr : render S = .ok text) (hl : m < text.length)
    (h : truncate render S m = .ok s) :
    ∃ candidates, possibleTruncations render S = .ok candidates ∧
      (search render m (schedule candidates) S = .ok (some s) ∨
        search render m (schedule candidates) S = .ok none ∧ s = hardCut text m) := by
  have hl : ¬text.length ≤ m := by omega
  simp only [truncate, hr, hl, ite_false, Except.ok_bind, Except.bind_eq_ok_iff] at h
  obtain ⟨candidates, hc, found, hf, h⟩ := h
  cases found <;> cases h
  case some => exact ⟨candidates, hc, .inl hf⟩
  case none => exact ⟨candidates, hc, .inr ⟨hf, rfl⟩⟩

theorem search_of_truncate_error (hr : render S = .ok text) (hl : m < text.length)
    (h : truncate render S m = .error e) :
    possibleTruncations render S = .error e ∨
      ∃ candidates, possibleTruncations render S = .ok candidates ∧
        search render m (schedule candidates) S = .error e := by
  have hl : ¬text.length ≤ m := by omega
  simp only [truncate, hr, hl, ite_false, Except.ok_bind, Except.bind_eq_error_iff] at h
  obtain h | ⟨candidates, hc, h | ⟨found, _, h⟩⟩ := h
  · exact .inl h
  · exact .inr ⟨candidates, hc, h⟩
  · cases found <;> cases h

theorem render_of_measure_error {part : Candidate.Part} (h : part.measure render = .error e) :
    render part.measured = .error e := by
  obtain h | ⟨_, _, h⟩ := Except.bind_eq_error_iff.mp h
  · exact h
  · cases h

-- No replacement fails: a part's location leads to a slot of its form after all the parts before
-- it are replaced. So every failure of a truncation is one of its renderer.
theorem truncate_fails_only_in_render (render : Renderer) (S : List Node) (m : Nat) :
    (∀ candidates, possibleTruncations render S = .ok candidates →
      ∀ k c, (schedule candidates)[k]? = some c →
        ∃ T T' child, mark S ((schedule candidates).take k) = .ok T ∧
          c.location.resolve? T = some child ∧ child.isMany = c.isSequence ∧
          c.location.replace T c.replacement = .ok T') ∧
    (∀ e, truncate render S m = .error e → ∃ ns, Asked render S m ns ∧ render ns = .error e) := by
  constructor
  case left =>
    intro candidates h k c hc
    have ⟨T, hT, hl⟩ := exists_mark_schedule h k
    have first : ((schedule candidates).drop k)[0]? = some c := by simpa using hc
    have hc := hl c (List.mem_of_getElem? first)
    have ⟨T', hT'⟩ := exists_replace hc
    have ⟨child, hr, hf⟩ := hc.filled
    exact ⟨T, T', child, hT, hr, hf, hT'⟩
  case right =>
    intro e h
    cases hr : render S
    case error e' =>
      have he : e' = e := by simpa [truncate, hr] using h
      exact ⟨S, .whole, he ▸ hr⟩
    case ok text =>
      by_cases hl : text.length ≤ m
      case pos => cases h ▸ truncate_of_fits hr hl
      case neg =>
        have hl : m < text.length := Nat.lt_of_not_ge hl
        obtain h | ⟨candidates, hc, h⟩ := search_of_truncate_error hr hl h
        · obtain ⟨pre, part, post, hp, hm, hpre⟩ := Except.exists_of_mapM_eq_error h
          refine ⟨part.measured, .part hr hl hp ?measured, render_of_measure_error hm⟩
          intro q hq
          obtain ⟨_, hq⟩ := hpre q hq
          obtain ⟨text, ht, _⟩ := Except.bind_eq_ok_iff.mp hq
          exact ⟨text, ht⟩
        · have spec := search_searched render m (schedule candidates) S
          rw [h] at spec
          obtain ⟨k, hk, ht, hj⟩ := spec
          obtain ⟨T, hT, _⟩ := exists_mark_schedule hc (k + 1)
          refine ⟨T, .marked hr hl hc hk hj hT, ?_⟩
          simpa [textAfter, hT] using ht

-- A renderer that refuses what has become too short: it is asked, and its refusal comes through.
theorem truncate_fails_only_in_render_refusal :
    let refusal : Error := .render (.note "too short")
    let render : Renderer := fun S =>
      if Node.sizeList S < 3 then .error refusal
      else .ok (.ofList (.replicate (Node.sizeList S) 'x'))
    let S : List Node := [.select { whereClause := some (.row ⟨[.star, .star, .star]⟩) }]
    let c : Candidate := ⟨⟨0, [⟨.whereClause, none⟩]⟩, .whereClause, 5, false⟩
    possibleTruncations render S = .ok [c] ∧ (∃ T', c.location.replace S c.replacement = .ok T') ∧
      truncate render S 3 = .error refusal ∧
      ∃ ns, Asked render S 3 ns ∧ render ns = .error refusal := by
  intro refusal render S c
  have found : possibleTruncations render S = .ok [c] := rfl
  have first : (schedule [c])[0]? = some c := by cbv
  have failed : truncate render S 3 = .error refusal := by cbv
  obtain ⟨places, failures⟩ := truncate_fails_only_in_render render S 3
  obtain ⟨_, T', _, hT, _, _, hT'⟩ := places [c] found 0 c first
  cases hT
  exact ⟨found, ⟨T', hT'⟩, failed, failures refusal failed⟩

theorem toList_hardCut (text : String) (m : Nat) :
    (hardCut text m).toList = text.toList.take (m - 3) ++ ['.', '.', '.'] := by
  have he : ellipsis.toList = ['.', '.', '.'] := rfl
  have hl : ellipsis.length = 3 := rfl
  simp [hardCut, he, hl]

theorem length_hardCut {text : String} (hm : 3 ≤ m) (hl : m < text.length) :
    (hardCut text m).length = m := by
  rw [← String.length_toList] at hl ⊢
  rw [toList_hardCut, List.length_append, List.length_take, List.length_cons, List.length_cons,
    List.length_singleton]
  omega

theorem Narrowed.unique (n : Narrowed render S m text cs) (n' : Narrowed render S m text' cs') :
    text = text' ∧ cs = cs' := by
  have ⟨_, hc, sched⟩ := n.parts
  have ⟨_, hc', sched'⟩ := n'.parts
  cases hc ▸ hc'
  cases n.full ▸ n'.full
  exact ⟨rfl, sched.unique sched'⟩

namespace Outcome

variable {o o' : Outcome}

theorem not_narrowed (y : whole.Yields render S m s) : ¬Narrowed render S m text cs := by
  intro n
  have ⟨hr, hl⟩ := y
  cases hr ▸ n.full
  have := n.long
  omega

theorem not_cut (y : (marked k).Yields render S m s) : ¬cut.Yields render S m s := by
  intro ⟨_, _, n', unfit, _⟩
  have ⟨_, _, n, _, ⟨pos, le, fits⟩, _⟩ := y
  cases (n.unique n').right
  exact unfit k pos le fits

theorem Yields.unique (y : o.Yields render S m s) (y' : o'.Yields render S m s) : o = o' := by
  cases o <;> cases o'
  case whole.whole | cut.cut => rfl
  case marked.marked k k' =>
    have ⟨_, _, n, _, l⟩ := y
    have ⟨_, _, n', _, l'⟩ := y'
    cases (n.unique n').right
    rw [l.unique l']
  case marked.cut => exact absurd y' (not_cut y)
  case cut.marked => exact absurd y (not_cut y')
  case whole.marked | whole.cut =>
    have ⟨_, _, n, _⟩ := y'
    exact absurd n (not_narrowed y)
  case marked.whole | cut.whole =>
    have ⟨_, _, n, _⟩ := y
    exact absurd n (not_narrowed y')

theorem exists_yields (h : truncate render S m = .ok s) : ∃ o : Outcome, o.Yields render S m s := by
  have ⟨text, hr, _⟩ := Except.bind_eq_ok_iff.mp h
  by_cases hl : text.length ≤ m
  case pos =>
    cases h ▸ truncate_of_fits hr hl
    exact ⟨.whole, hr, hl⟩
  case neg =>
    have hl : m < text.length := by omega
    have ⟨candidates, hc, hs⟩ := search_of_truncate_ok hr hl h
    have narrowed : Narrowed render S m text (schedule candidates) :=
      ⟨hr, hl, candidates, hc, schedule_scheduled candidates⟩
    have spec := search_searched render m (schedule candidates) S
    obtain hs | ⟨hs, rfl⟩ := hs <;> rw [hs] at spec
    · have ⟨k, hk, ht, hf, hj⟩ := spec
      refine ⟨.marked (k + 1), text, _, narrowed, ht, ⟨by omega, by omega, s, ht, hf⟩, ?_⟩
      intro k' ⟨pos, _, fits⟩
      by_contra hk'
      exact not_fits_of_overlong hj pos (by omega) fits
    · refine ⟨.cut, text, _, narrowed, ?_, toList_hardCut text m⟩
      intro k pos le
      exact not_fits_of_overlong spec pos le

theorem length_of_cut (y : cut.Yields render S m s) (hm : 3 ≤ m) : s.length = m := by
  have ⟨text, _, n, _, hs⟩ := y
  have cut : s = hardCut text m := String.toList_inj.mp (hs.trans (toList_hardCut text m).symm)
  exact cut ▸ length_hardCut hm n.long

theorem length_le_of_yields (y : o.Yields render S m s) (hm : 3 ≤ m) : s.length ≤ m := by
  cases o
  case whole => exact y.right
  case marked k =>
    have ⟨_, _, _, hs, ⟨_, _, _, ht, hl⟩, _⟩ := y
    cases hs ▸ ht
    exact hl
  case cut => exact Nat.le_of_eq (length_of_cut y hm)

theorem eq_ellipsis_of_cut (y : cut.Yields render S m s) (hm : m < 3) : s = "..." := by
  have ⟨text, _, _, _, hs⟩ := y
  have hm : m - 3 = 0 := by omega
  rw [hm] at hs
  exact String.toList_inj.mp hs

end Outcome

-- A truncation has exactly one outcome, and it keeps to its budget if the ellipsis fits in.
theorem truncate_outcome (h : truncate render S m = .ok s) :
    (∃! o : Outcome, o.Yields render S m s) ∧
    (3 ≤ m → s.length ≤ m ∧ (Outcome.cut.Yields render S m s → s.length = m)) ∧
    (m < 3 → Outcome.cut.Yields render S m s → s = "...") := by
  have ⟨o, y⟩ := Outcome.exists_yields h
  refine ⟨⟨o, y, fun o' y' => y'.unique y⟩, ?budget, ?small⟩
  case budget =>
    intro hm
    exact ⟨Outcome.length_le_of_yields y hm, fun y => Outcome.length_of_cut y hm⟩
  case small =>
    intro hm y
    exact Outcome.eq_ellipsis_of_cut y hm

-- A condition inside a named query goes first, then the query; the outer condition stays.
theorem truncate_outcome_nested :
    let render : Renderer := fun S => .ok (.ofList (.replicate (Node.sizeList S) 'x'))
    let inner : Node := .select { whereClause := some (.row ⟨[.star, .star, .star]⟩) }
    let S : List Node := [.select {
      withClause := some (.with ⟨false, [.cte ⟨"c", [], inner⟩]⟩)
      whereClause := some (.row ⟨[.star, .star]⟩) }]
    truncate render S 7 = .ok "xxxxxxx" ∧ "xxxxxxx".length ≤ 7 ∧
      ∃! o : Outcome, o.Yields render S 7 "xxxxxxx" := by
  intro render inner S
  have h : truncate render S 7 = .ok "xxxxxxx" := by cbv
  obtain ⟨unique, budget, _⟩ := truncate_outcome h
  exact ⟨h, (budget (by decide)).left, unique⟩

end SqlLens.Truncate
