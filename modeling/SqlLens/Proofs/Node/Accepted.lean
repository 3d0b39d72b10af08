import SqlLens.Proofs.Node.Path

namespace SqlLens

-- What an opened slot takes: a scalar slot, filled or not, one node, and a sequence slot a whole
-- sequence or one node in the place of an element that it has.
inductive Focus.Accepts : Focus → Option Nat → Replacement → Prop
  | one : Accepts (.one n put) none (.scalar m)
  | optional : Accepts (.optional o put) none (.scalar m)
  | many : Accepts (.many ns put) none (.sequence ms)
  | element : i < ns.length → Accepts (.many ns put) (some i) (.scalar m)

theorem Focus.accepts_iff {f : Focus} {i : Option Nat} {r : Replacement} :
    f.Accepts i r ↔ ∃ h, f.held.fill? i r = some h := by
  constructor
  case mp =>
    intro h
    cases h
    case element hi => exact ⟨_, if_pos hi⟩
    all_goals exact ⟨_, rfl⟩
  case mpr =>
    intro ⟨h, e⟩
    cases f <;> cases i <;> cases r <;> simp only [held, Held.fill?, reduceCtorEq] at e
    case one.none.scalar => exact .one
    case optional.none.scalar => exact .optional
    case many.none.sequence => exact .many
    case many.some.scalar =>
      split at e
      case isTrue hi => exact .element hi
      case isFalse => cases e

namespace Node

variable {n m : Node} {s : Step} {steps : List Step} {r : Replacement} {slot : Slot} {path : String}

theorem exists_fill_iff : (∃ n', n.fill path s r = .ok n') ↔
    ∃ f, n.focus? s.slot = some f ∧ f.Accepts s.index r := by
  simp only [fill_ok_iff, Focus.accepts_iff]
  constructor
  case mp =>
    intro ⟨_, f, f', hf, _, h⟩
    exact ⟨f, hf, _, h⟩
  case mpr =>
    intro ⟨f, hf, h, e⟩
    obtain ⟨f', n', p, rfl⟩ := Focus.exists_put e
    exact ⟨n', f, f', hf, p, e⟩

-- All steps but the last one only have to lead to a node.
theorem exists_replace_iff : (∃ n', n.replace path (steps ++ [s]) r = .ok n') ↔
    ∃ m m', n.resolve? steps = some (.one m) ∧ m.fill path s r = .ok m' := by
  induction steps generalizing n
  case nil => simp [resolve?, replace]
  case cons t steps hi =>
    have below : (∃ n', n.replace path (t :: steps ++ [s]) r = .ok n') ↔
        ∃ k, n.step? t = some k ∧ ∃ k', k.replace path (steps ++ [s]) r = .ok k' := by
      obtain ⟨u, rest, e⟩ : ∃ u rest, steps ++ [s] = u :: rest :=
        List.exists_cons_of_ne_nil (by simp)
      simp only [List.cons_append, e, replace_cons_ok_iff]
      constructor
      case mp =>
        rintro ⟨_, k, k', hk, hk', _⟩
        exact ⟨k, hk, k', hk'⟩
      case mpr =>
        -- The slot of a step that leads to a node takes any node in its place.
        rintro ⟨k, hk, k', hk'⟩
        have held := fill_self path (step?_eq_some_iff.mp hk)
        obtain ⟨n', hn'⟩ : ∃ n', n.fill path t (.scalar k') = .ok n' := fill_of_form held rfl
        exact ⟨n', k, k', hk, hk', hn'⟩
    simp only [below, hi, resolve?_cons_eq_one_iff]
    constructor
    · rintro ⟨k, hk, m, m', hm, h⟩
      exact ⟨m, m', ⟨k, hk, hm⟩, h⟩
    · rintro ⟨m, m', ⟨k, hk, hm⟩, h⟩
      exact ⟨k, hk, m, m', hm, h⟩

-- Reading finds a single node where the opened slot is a filled scalar one.
theorem child?_eq_one_iff : n.child? slot = some (.one m) ↔ ∃ put,
    n.focus? slot = some (.one m put) ∨ n.focus? slot = some (.optional (some m) put) := by
  rw [child?_eq_held, held?]
  rcases n.focus? slot with _ | ⟨_ | _ | ns⟩
  case some.many => cases ns <;> simp [Focus.held, Held.child?]
  all_goals simp [Focus.held, Held.child?]

-- It finds a list where the opened slot is a sequence that is not empty.
theorem child?_eq_many_iff : n.child? slot = some (.many ns) ↔
    ns ≠ [] ∧ ∃ put, n.focus? slot = some (.many ns put) := by
  rw [child?_eq_held, held?]
  rcases n.focus? slot with _ | ⟨_ | _ | ms⟩
  case some.many put =>
    have same : (∃ put', some (Focus.many ms put) = some (Focus.many ns put')) ↔ ms = ns := by
      simp
    rw [same]
    cases ms <;> simp only [Focus.held, Option.map_some, Option.bind_some, Held.child?]
    case nil => simp [eq_comm]
    case cons => simp +contextual [eq_comm]
  all_goals simp [Focus.held, Held.child?]

end Node

namespace Path

variable {p : Path} {S : List Node} {r : Replacement}

theorem exists_replace_ok_iff : (∃ S', p.replace S r = .ok S') ↔
    ∃ n, S[p.statement]? = some n ∧ ∃ n', n.replace p.name p.steps r = .ok n' := by
  simp only [replace_ok_iff]
  constructor
  · intro ⟨_, n, n', hn, h, _⟩
    exact ⟨n, hn, n', h⟩
  · intro ⟨n, hn, n', h⟩
    exact ⟨_, n, n', hn, h, rfl⟩

-- A replacement goes through if and only if the path has a last step, the steps before it lead to a
-- single node, and the slot of that node takes what is put there. Reading and opening agree on what
-- the slots of a node hold.
theorem replaceable_iff (S : List Node) (p : Path) (r : Replacement) :
    ((∃ S', p.replace S r = .ok S') ↔ ∃ q slot index, p = child q slot index ∧
      ∃ n f, q.resolve? S = some (.one n) ∧ n.focus? slot = some f ∧ f.Accepts index r) ∧
    ∀ (n : Node) slot,
      (∀ m, n.child? slot = some (.one m) ↔ ∃ put,
        n.focus? slot = some (.one m put) ∨ n.focus? slot = some (.optional (some m) put)) ∧
      (∀ ms, n.child? slot = some (.many ms) ↔
        ms ≠ [] ∧ ∃ put, n.focus? slot = some (.many ms put)) := by
  refine ⟨?_, fun n slot => ⟨fun m => Node.child?_eq_one_iff, fun ms => Node.child?_eq_many_iff⟩⟩
  obtain ⟨statement, steps⟩ := p
  rw [exists_replace_ok_iff]
  rcases steps.eq_nil_or_concat' with rfl | ⟨steps, ⟨slot, index⟩, rfl⟩
  case inl => simp [Node.replace, child]
  case inr =>
    have last {q t j} : (⟨statement, steps ++ [⟨slot, index⟩]⟩ : Path) = child q t j ↔
        ⟨statement, steps⟩ = q ∧ slot = t ∧ index = j :=
      child_inj (p := ⟨statement, steps⟩)
    simp only [Node.exists_replace_iff]
    constructor
    case mp =>
      rintro ⟨m, hm, n, n', hn, h⟩
      obtain ⟨f, hf, accepts⟩ := Node.exists_fill_iff.mp ⟨n', h⟩
      exact ⟨_, slot, index, last.mpr ⟨rfl, rfl, rfl⟩, n, f, by simp [resolve?, hm, hn], hf, accepts⟩
    case mpr =>
      rintro ⟨q, t, j, e, n, f, hn, hf, accepts⟩
      obtain ⟨rfl, rfl, rfl⟩ := last.mp e
      obtain ⟨m, hm, hn⟩ := Option.bind_eq_some_iff.mp hn
      obtain ⟨n', h⟩ := Node.exists_fill_iff (s := ⟨slot, index⟩).mpr ⟨f, hf, accepts⟩
      exact ⟨m, hm, n, n', hn, h⟩

end Path

end SqlLens
