import SqlLens.Proofs.Except
import SqlLens.Proofs.Node.Slot

namespace SqlLens

-- Two steps that part ways: into different slots or to different elements of one list.
inductive Step.Apart : Step → Step → Prop
  | slot {s t : Step} : s.slot ≠ t.slot → Apart s t
  | index {slot : Slot} {i j : Nat} : i ≠ j → Apart ⟨slot, some i⟩ ⟨slot, some j⟩

-- Steps that part ways where they differ first.
inductive Step.Diverge : List Step → List Step → Prop
  | here : s.Apart t → Diverge (s :: p) (t :: q)
  | after : Diverge p q → Diverge (s :: p) (s :: q)

-- Paths that lead to different statements or part ways within one.
inductive Path.Diverge (p q : Path) : Prop
  | statement : p.statement ≠ q.statement → Diverge p q
  | steps : p.statement = q.statement → Step.Diverge p.steps q.steps → Diverge p q

namespace Node

variable {n n' m : Node} {s t : Step} {r r' : Replacement} {c : Child} {path : String}

theorem content?_eq_held : n.content? s = (n.held? s.slot).bind (·.content? s.index) := by
  unfold content?
  rw [child?_eq_held]
  cases n.held? s.slot
  case none => rfl
  case some h =>
    match h, s.index with
    | .one _, none | .one _, some _ => rfl
    | .optional none, none | .optional none, some _ => rfl
    | .optional (some _), none | .optional (some _), some _ => rfl
    | .many [], none | .many [], some _ => rfl
    | .many (_ :: _), none | .many (_ :: _), some _ => rfl

theorem step?_eq_some_iff : n.step? s = some m ↔ n.content? s = some (.one m) := by
  unfold step? content?
  match n.child? s.slot, s.index with
  | none, none | none, some _ => simp
  | some (.one _), none | some (.one _), some _ => simp
  | some (.many _), none | some (.many _), some _ => simp

theorem fill_ok_iff : n.fill path s r = .ok n' ↔
    ∃ f f', n.focus? s.slot = some f ∧ f.Put f' n' ∧ f.held.fill? s.index r = some f'.held := by
  unfold fill
  cases n.focus? s.slot
  case none => simp
  case some f =>
    simp only [Option.some.injEq, exists_and_left, exists_eq_left']
    constructor
    case mp =>
      intro h
      split at h
      case h_4 ns put k m hi =>
        split at h <;> cases h
        exact ⟨_, .many, by simp [Focus.held, Held.fill?, *]⟩
      case h_5 => cases h
      all_goals
        cases h
        exact ⟨_, by constructor, by simp [*, Focus.held, Held.fill?]⟩
    case mpr =>
      rintro ⟨f', p, h⟩
      cases p <;> cases hi : s.index <;> cases r <;> simp_all [Focus.held, Held.fill?]

variable (e : n.fill path s r = .ok n')
include e

theorem fill_content? : n'.content? s = r.child? := by
  have ⟨f, f', hf, p, h⟩ := fill_ok_iff.mp e
  simp [content?_eq_held, held?, focus?_put hf p, Held.fill?_content? h]

theorem fill_preserves (a : s.Apart t) : n'.content? t = n.content? t := by
  have ⟨f, f', hf, p, h⟩ := fill_ok_iff.mp e
  cases a
  case slot hs => simp [content?_eq_held, held?_put hf p hs.symm]
  case index hi =>
    simp [content?_eq_held, held?, focus?_put hf p, hf, Held.fill?_preserves h hi]

theorem fill_fill (e' : n'.fill path s r' = .ok m) : n.fill path s r' = .ok m := by
  have ⟨f, f', hf, p, h⟩ := fill_ok_iff.mp e
  have ⟨g, g', hg, q, h'⟩ := fill_ok_iff.mp e'
  cases hg ▸ focus?_put hf p
  exact fill_ok_iff.mpr ⟨f, g', hf, p.trans q, Held.fill?_fill? h ▸ h'⟩

theorem fill_of_form (hf : r'.isSequence = r.isSequence) : ∃ m, n.fill path s r' = .ok m := by
  have ⟨f, f', hs, p, h⟩ := fill_ok_iff.mp e
  have ⟨_, h⟩ := Held.fill?_of_form h hf
  have ⟨g, m, q, hg⟩ := Focus.exists_put h
  exact ⟨m, fill_ok_iff.mpr ⟨f, g, hs, q, hg ▸ h⟩⟩

theorem fill_preserves_form (hr : r.child? ≠ none) (ht : t.index = none)
    (hc : n.content? t = some c) : ∃ c', n'.content? t = some c' ∧ c'.isMany = c.isMany := by
  by_cases hst : s.slot = t.slot
  case neg => exact ⟨c, fill_preserves e (.slot hst) ▸ hc, rfl⟩
  case pos =>
    have ⟨f, f', hf, p, h⟩ := fill_ok_iff.mp e
    simp only [content?_eq_held, ht, ← hst, held?, hf, focus?_put hf p, Option.map_some,
      Option.bind_some] at hc ⊢
    exact Held.fill?_preserves_form h hr hc

omit e

theorem step?_fill (e : n.fill path s (.scalar m) = .ok n') : n'.step? s = some m :=
  step?_eq_some_iff.mpr (fill_content? e)

theorem fill_self (path : String) (h : n.content? s = some c) :
    n.fill path s c.replacement = .ok n := by
  simp only [content?_eq_held, held?, Option.bind_eq_some_iff, Option.map_eq_some_iff] at h
  obtain ⟨_, ⟨f, hf, rfl⟩, h⟩ := h
  have h := Held.fill?_self h
  obtain ⟨f', n', p, hh⟩ := Focus.exists_put h
  cases p.eq_of_held_eq hh
  cases focus?_put_self hf p
  exact fill_ok_iff.mpr ⟨f, f, hf, p, h⟩

theorem focusStep?_eq_some (path : String) (h : n.focusStep? s = some (m, put)) :
    n.step? s = some m ∧ ∀ m', n.fill path s (.scalar m') = .ok (put m') := by
  rw [step?_eq_some_iff, content?_eq_held]
  unfold focusStep? at h
  split at h
  case h_3 ns put' k hf hi =>
    have ⟨_, hm, h⟩ := Option.map_eq_some_iff.mp h
    cases h
    have ⟨hk, hm⟩ := List.getElem?_eq_some_iff.mp hm
    simp [held?, hf, hi, Focus.held, Held.content?, hm, fill, hk]
  case h_4 => cases h
  all_goals
    cases h
    simp [held?, Focus.held, Held.content?, Held.child?, fill, *]

theorem exists_focusStep? (h : n.step? s = some m) : ∃ put, n.focusStep? s = some (m, put) := by
  rw [step?_eq_some_iff, content?_eq_held] at h
  simp only [held?, Option.bind_eq_some_iff, Option.map_eq_some_iff] at h
  obtain ⟨_, ⟨f, hf, rfl⟩, h⟩ := h
  unfold focusStep?
  cases f <;> cases hi : s.index <;> simp_all [Focus.held, Held.content?, Held.child?]
  case many.none ns _ => cases ns <;> simp at h

-- A replacement further down is a replacement of the node one step below.
theorem replace_cons_ok_iff : n.replace path (s :: t :: rest) r = .ok n' ↔
    ∃ m m', n.step? s = some m ∧ m.replace path (t :: rest) r = .ok m' ∧
      n.fill path s (.scalar m') = .ok n' := by
  constructor
  case mp =>
    intro h
    unfold replace at h
    split at h
    case h_1 => cases h
    case h_2 m put hf =>
      have ⟨hs, hput⟩ := focusStep?_eq_some path hf
      have ⟨m', hm, h⟩ := Except.bind_eq_ok_iff.mp h
      exact ⟨m, m', hs, hm, h ▸ hput m'⟩
  case mpr =>
    intro ⟨m, m', hs, hm, h⟩
    have ⟨put, hf⟩ := exists_focusStep? hs
    have hput := (focusStep?_eq_some path hf).right m'
    simp only [replace, hf, hm]
    exact hput.symm.trans h

-- Whatever is replaced below, the node itself changes in one slot.
theorem exists_fill (e : n.replace path (s :: rest) r = .ok n') :
    ∃ r', (r.child? ≠ none → r'.child? ≠ none) ∧ n.fill path s r' = .ok n' := by
  cases rest
  case nil => exact ⟨r, id, e⟩
  case cons t rest =>
    have ⟨_, m', _, _, hf⟩ := replace_cons_ok_iff.mp e
    exact ⟨.scalar m', fun _ => nofun, hf⟩

theorem resolve?_congr (h : n'.content? s = n.content? s) :
    n'.resolve? (s :: rest) = n.resolve? (s :: rest) := by
  cases rest
  case nil => exact h
  case cons t rest =>
    have hs : n'.step? s = n.step? s := by ext m; simp [step?_eq_some_iff, h]
    simp [resolve?, hs]

theorem resolve?_cons_eq_one_iff : n.resolve? (s :: rest) = some (.one m) ↔
    ∃ k, n.step? s = some k ∧ k.resolve? rest = some (.one m) := by
  cases rest
  case nil => simp [resolve?, step?_eq_some_iff]
  case cons => simp [resolve?, Option.bind_eq_some_iff]

theorem resolve?_concat (h : n.resolve? steps = some (.one m)) :
    n.resolve? (steps ++ [s]) = m.content? s := by
  induction steps generalizing n
  case nil => cases h; rfl
  case cons t rest hi =>
    cases rest
    case nil => simp [resolve?, step?_eq_some_iff.mpr h]
    case cons t' rest =>
      have ⟨k, hk, h⟩ := Option.bind_eq_some_iff.mp h
      simpa [resolve?, hk] using hi h

theorem exists_parent_of_resolve? (h : n.resolve? (steps ++ [s]) = some c) :
    ∃ m, n.resolve? steps = some (.one m) ∧ m.content? s = some c := by
  induction steps generalizing n
  case nil => exact ⟨n, rfl, h⟩
  case cons t rest hi =>
    have down : n.resolve? (t :: rest ++ [s]) =
        (n.step? t).bind fun k => k.resolve? (rest ++ [s]) := by
      cases rest <;> rfl
    have ⟨k, hk, h⟩ := Option.bind_eq_some_iff.mp (down ▸ h)
    have ⟨m, hm, h⟩ := hi h
    refine ⟨m, ?_, h⟩
    cases rest
    case nil => cases hm; exact step?_eq_some_iff.mp hk
    case cons => simp [resolve?, hk, hm]

theorem replace_resolve? (e : n.replace path steps r = .ok n') :
    n'.resolve? steps = r.child? := by
  induction steps generalizing n n'
  case nil => cases e
  case cons s rest hi =>
    cases rest
    case nil => exact fill_content? e
    case cons t rest =>
      have ⟨m, m', _, hm, hf⟩ := replace_cons_ok_iff.mp e
      simp [resolve?, step?_fill hf, hi hm]

theorem replace_preserves (e : n.replace path p r = .ok n') (d : Step.Diverge p q) :
    n'.resolve? q = n.resolve? q := by
  induction d generalizing n n'
  case here a =>
    have ⟨r', _, hf⟩ := exists_fill e
    exact resolve?_congr (fill_preserves hf a)
  case after p q s d hi =>
    -- Neither of two lists that part ways is empty.
    cases d
    all_goals
      have ⟨m, m', hs, hm, hf⟩ := replace_cons_ok_iff.mp e
      simp [resolve?, hs, step?_fill hf, hi hm]

theorem replace_replace (e : n.replace path steps r = .ok n')
    (e' : n'.replace path steps r' = .ok m) : n.replace path steps r' = .ok m := by
  induction steps generalizing n n' m
  case nil => cases e
  case cons s rest hi =>
    cases rest
    case nil => exact fill_fill e e'
    case cons t rest =>
      have ⟨k, k', hs, hk, hf⟩ := replace_cons_ok_iff.mp e
      have ⟨l, l', hs', hl, hf'⟩ := replace_cons_ok_iff.mp e'
      cases hs' ▸ step?_fill hf
      exact replace_cons_ok_iff.mpr ⟨k, l', hs, hi hk hl, fill_fill hf hf'⟩

theorem replace_self (path : String) (h : n.resolve? steps = some c) (hs : steps ≠ []) :
    n.replace path steps c.replacement = .ok n := by
  induction steps generalizing n
  case nil => contradiction
  case cons s rest hi =>
    cases rest
    case nil => exact fill_self path h
    case cons t rest =>
      have ⟨m, hm, h⟩ := Option.bind_eq_some_iff.mp h
      have hf := fill_self path (step?_eq_some_iff.mp hm)
      exact replace_cons_ok_iff.mpr ⟨m, m, hm, hi h (by simp), hf⟩

theorem replace_of_form (e : n.replace path steps r = .ok n')
    (hf : r'.isSequence = r.isSequence) : ∃ m, n.replace path steps r' = .ok m := by
  induction steps generalizing n n'
  case nil => cases e
  case cons s rest hi =>
    cases rest
    case nil => exact fill_of_form e hf
    case cons t rest =>
      have ⟨k, k', hs, hk, hf⟩ := replace_cons_ok_iff.mp e
      have ⟨l, hl⟩ := hi hk
      have ⟨m, hm⟩ : ∃ m, n.fill path s (.scalar l) = .ok m := fill_of_form hf rfl
      exact ⟨m, replace_cons_ok_iff.mpr ⟨k, l, hs, hl, hm⟩⟩

-- Two steps that lead somewhere from the same node are the same or part ways.
theorem eq_or_apart (hs : n.step? s = some m) (ht : n.step? t = some m') :
    s = t ∨ s.Apart t := by
  by_cases h : s.slot = t.slot
  case neg => exact .inr (.slot h)
  case pos =>
    obtain ⟨slot, i⟩ := s
    obtain ⟨_, j⟩ := t
    cases h
    unfold step? at hs ht
    cases hc : n.child? slot <;> simp only [hc] at hs ht
    case none => cases hs
    case some c =>
      cases c <;> cases i <;> cases j <;> try contradiction
      case one.none.none => exact .inl rfl
      case many.some.some k l =>
        by_cases hkl : k = l
        case pos => exact .inl (hkl ▸ rfl)
        case neg => exact .inr (.index hkl)

-- A slot stays filled in its form when something is put further down or beside it.
theorem replace_preserves_form (e : n.replace path p r = .ok n') (hr : r.child? ≠ none)
    (hl : q.length ≤ p.length) (hq : ∀ t ∈ q.getLast?, t.index = none)
    (hc : n.resolve? q = some c) : ∃ c', n'.resolve? q = some c' ∧ c'.isMany = c.isMany := by
  induction q generalizing n n' p
  case nil =>
    cases hc
    exact ⟨.one n', rfl, rfl⟩
  case cons t rest hi =>
    cases p
    case nil => cases e
    case cons s p =>
      cases rest
      case nil =>
        have ⟨r', hr', hf⟩ := exists_fill e
        exact fill_preserves_form hf (hr' hr) (hq t rfl) hc
      case cons t' rest =>
        cases p
        case nil => simp at hl
        case cons s' p =>
          have ⟨m, m', hs, hm, hf⟩ := replace_cons_ok_iff.mp e
          have ⟨k, hk, hc⟩ := Option.bind_eq_some_iff.mp hc
          obtain rfl | a := eq_or_apart hs hk
          · cases hk ▸ hs
            have ⟨c', hc', hc⟩ := hi hm (by simpa using hl) hq hc
            exact ⟨c', by simp [resolve?, step?_fill hf, hc'], hc⟩
          · rw [resolve?_congr (fill_preserves hf a)]
            exact ⟨c, by simp [resolve?, hk, hc], rfl⟩

end Node

namespace Path

variable {p q : Path} {S S' S'' : List Node} {r r' : Replacement} {c : Child}

theorem child_inj {s t : Slot} {i j : Option Nat} :
    p.child s i = q.child t j ↔ p = q ∧ s = t ∧ i = j := by
  cases p; cases q
  simp [child, and_assoc]

theorem resolve?_child (h : p.resolve? S = some (.one n)) (slot : Slot) (index : Option Nat) :
    (p.child slot index).resolve? S = n.content? ⟨slot, index⟩ := by
  have ⟨m, hm, h⟩ := Option.bind_eq_some_iff.mp h
  simp [resolve?, child, hm, Node.resolve?_concat h]

-- What stands one step further down stands in a node.
theorem exists_parent_of_resolve? (h : (p.child slot index).resolve? S = some c) :
    ∃ n, p.resolve? S = some (.one n) ∧ n.content? ⟨slot, index⟩ = some c := by
  have ⟨m, hm, h⟩ := Option.bind_eq_some_iff.mp h
  have ⟨n, hn, h⟩ := Node.exists_parent_of_resolve? h
  exact ⟨n, by simp [resolve?, show S[p.statement]? = some m from hm, hn], h⟩

theorem replace_ok_iff : p.replace S r = .ok S' ↔
    ∃ n n', S[p.statement]? = some n ∧ n.replace p.name p.steps r = .ok n' ∧
      S.set p.statement n' = S' := by
  unfold replace
  cases hp : p.steps
  case nil => simp [isRoot, hp, Node.replace]
  case cons =>
    cases S[p.statement]?
    case none => simp [isRoot, hp]
    case some n => simp [isRoot, hp, Except.bind_eq_ok_iff]

theorem replace_resolve? (e : p.replace S r = .ok S') : p.resolve? S' = r.child? := by
  have ⟨n, n', hn, h, hS⟩ := replace_ok_iff.mp e
  have ⟨hl, _⟩ := List.getElem?_eq_some_iff.mp hn
  simp [resolve?, ← hS, hl, Node.replace_resolve? h]

theorem replace_preserves (e : p.replace S r = .ok S') (d : p.Diverge q) :
    q.resolve? S' = q.resolve? S := by
  have ⟨n, n', hn, h, hS⟩ := replace_ok_iff.mp e
  cases d
  case statement hs => simp [resolve?, ← hS, List.getElem?_set_ne hs]
  case steps hs d =>
    have ⟨hl, hn⟩ := List.getElem?_eq_some_iff.mp hn
    simp [resolve?, ← hS, ← hs, hl, hn, Node.replace_preserves h d]

theorem replace_replace (e : p.replace S r = .ok S') (e' : p.replace S' r' = .ok S'') :
    p.replace S r' = .ok S'' := by
  have ⟨n, n', hn, h, hS⟩ := replace_ok_iff.mp e
  have ⟨m, m', hm, h', hS'⟩ := replace_ok_iff.mp e'
  have ⟨hl, _⟩ := List.getElem?_eq_some_iff.mp hn
  have hm : n' = m := by simpa [← hS, hl] using hm
  subst hm hS hS'
  exact replace_ok_iff.mpr ⟨n, m', hn, Node.replace_replace h h', by simp⟩

theorem replace_self (h : p.resolve? S = some c) (hp : ¬p.isRoot) :
    p.replace S c.replacement = .ok S := by
  have ⟨n, hn, h⟩ := Option.bind_eq_some_iff.mp h
  have ⟨hl, hn'⟩ := List.getElem?_eq_some_iff.mp hn
  have h := Node.replace_self p.name h (by simpa [isRoot] using hp)
  exact replace_ok_iff.mpr ⟨n, n, hn, h, by simp [← hn']⟩

theorem replace_of_form (e : p.replace S r = .ok S') (hf : r'.isSequence = r.isSequence) :
    ∃ S'', p.replace S r' = .ok S'' := by
  have ⟨n, n', hn, h, _⟩ := replace_ok_iff.mp e
  have ⟨m, hm⟩ := Node.replace_of_form h hf
  exact ⟨_, replace_ok_iff.mpr ⟨n, m, hn, hm, rfl⟩⟩

theorem replace_preserves_form (e : p.replace S r = .ok S') (hr : r.child? ≠ none)
    (hl : q.depth ≤ p.depth) (hq : ∀ t ∈ q.steps.getLast?, t.index = none)
    (hc : q.resolve? S = some c) : ∃ c', q.resolve? S' = some c' ∧ c'.isMany = c.isMany := by
  have ⟨n, n', hn, h, hS⟩ := replace_ok_iff.mp e
  by_cases hpq : p.statement = q.statement
  case neg => exact ⟨c, replace_preserves e (.statement hpq) ▸ hc, rfl⟩
  case pos =>
    have ⟨hs, _⟩ := List.getElem?_eq_some_iff.mp hn
    have hc : n.resolve? q.steps = some c := by simpa [resolve?, ← hpq, hn] using hc
    have ⟨c', hc', hf⟩ := Node.replace_preserves_form h hr hl hq hc
    exact ⟨c', by simp [resolve?, ← hS, ← hpq, hs, hc'], hf⟩

-- The laws of a lens: what was put is read, what stands elsewhere stays, a second replacement
-- makes the first one undone, and putting back what was read changes nothing.
theorem lawful_lens (p : Path) (S : List Node) :
    (∀ r S', p.replace S r = .ok S' →
      (∀ n, r = .scalar n → p.resolve? S' = some (.one n)) ∧
      (∀ ns, r = .sequence ns → ns ≠ [] → p.resolve? S' = some (.many ns)) ∧
      (r = .sequence [] → p.resolve? S' = none) ∧
      (∀ q, p.Diverge q → q.resolve? S' = q.resolve? S) ∧
      (∀ r' S'', p.replace S' r' = .ok S'' → p.replace S r' = .ok S'')) ∧
    (¬p.isRoot →
      (∀ n, p.resolve? S = some (.one n) → p.replace S (.scalar n) = .ok S) ∧
      (∀ ns, p.resolve? S = some (.many ns) → p.replace S (.sequence ns) = .ok S)) := by
  constructor
  case left =>
    intro r S' e
    have hr := replace_resolve? e
    refine ⟨?scalar, ?sequence, ?empty, fun q => replace_preserves e, fun r' S'' => ?again⟩
    case scalar => rintro n rfl; exact hr
    case sequence =>
      rintro ns rfl hn
      cases ns
      case nil  => contradiction
      case cons => exact hr
    case empty => rintro rfl; exact hr
    case again => exact replace_replace e
  case right =>
    intro hp
    exact ⟨fun n h => replace_self h hp, fun ns h => replace_self h hp⟩

-- The first target of a query inside a condition, beside its second one.
theorem lawful_lens_subquery :
    let sub : Node := .select { targetList := [.star, .column ⟨["a"]⟩] }
    let S : List Node := [.select { whereClause := some (.sublink ⟨.exists, none, none, sub⟩) }]
    let p : Path := ⟨0, [⟨.whereClause, none⟩, ⟨.subselect, none⟩, ⟨.targetList, some 0⟩]⟩
    let q : Path := ⟨0, [⟨.whereClause, none⟩, ⟨.subselect, none⟩, ⟨.targetList, some 1⟩]⟩
    ∃ S', p.replace S (.scalar .truncated) = .ok S' ∧ p.resolve? S' = some (.one .truncated) ∧
      q.resolve? S' = some (.one (.column ⟨["a"]⟩)) ∧ p.replace S (.scalar .star) = .ok S := by
  intro sub S p q
  have h : ∃ S', p.replace S (.scalar .truncated) = .ok S' := ⟨_, rfl⟩
  obtain ⟨S', h⟩ := h
  have ⟨put, self⟩ := lawful_lens p S
  have ⟨hp, _, _, hq, _⟩ := put _ _ h
  have d : p.Diverge q := .steps rfl (.after (.after (.here (.index nofun))))
  have there : p.resolve? S = some (.one .star) := by rfl
  have beside : q.resolve? S = some (.one (.column ⟨["a"]⟩)) := by rfl
  exact ⟨S', h, hp _ rfl, (hq q d).trans beside, (self nofun).left _ there⟩

end Path

end SqlLens
