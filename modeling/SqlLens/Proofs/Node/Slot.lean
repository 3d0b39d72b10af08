import Mathlib.Data.List.Nodup
import SqlLens.Node.Path

namespace SqlLens

-- What stands in a slot after a replacement. An empty list counts as absent.
def Replacement.child? : Replacement → Option Child
  | .scalar n           => some (.one n)
  | .sequence []        => none
  | .sequence (n :: ns) => some (.many (n :: ns))

-- The replacement that puts a child back.
def Child.replacement : Child → Replacement
  | .one n   => .scalar n
  | .many ns => .sequence ns

def Replacement.isSequence : Replacement → Bool
  | .scalar _   => false
  | .sequence _ => true

def Child.isMany : Child → Bool
  | .one _  => false
  | .many _ => true

-- The content of a slot by the form of the slot, filled or not.
inductive Held where
  | one (node : Node)
  | optional (node : Option Node)
  | many (nodes : List Node)

namespace Held

def child? : Held → Option Child
  | .one n          => some (.one n)
  | .optional n     => n.map .one
  | .many []        => none
  | .many (n :: ns) => some (.many (n :: ns))

-- What a step with this position finds.
def content? (h : Held) : Option Nat → Option Child
  | none => h.child?
  | some i =>
    match h with
    | .many ns => ns[i]?.map .one
    | _ => none

-- The content after a replacement, if the replacement fits the form of the slot.
def fill? : Held → Option Nat → Replacement → Option Held
  | .one _, none, .scalar m => some (.one m)
  | .optional _, none, .scalar m => some (.optional (some m))
  | .many _, none, .sequence ms => some (.many ms)
  | .many ns, some i, .scalar m => if i < ns.length then some (.many (ns.set i m)) else none
  | _, _, _ => none

variable {h h' : Held} {i j : Option Nat} {r r' : Replacement} {c : Child}

theorem fill?_content? (e : h.fill? i r = some h') : h'.content? i = r.child? := by
  unfold fill? at e
  split at e
  case h_3 ms => cases ms <;> cases e <;> rfl
  case h_4 ns k m =>
    split at e <;> cases e
    simp_all [content?, Replacement.child?]
  all_goals cases e <;> rfl

theorem fill?_fill? (e : h.fill? i r = some h') : h'.fill? i r' = h.fill? i r' := by
  unfold fill? at e
  split at e
  case h_4 ns k m =>
    split at e <;> cases e
    cases r' <;> simp [fill?]
  all_goals cases e <;> cases r' <;> rfl

theorem fill?_self (e : h.content? i = some c) : h.fill? i c.replacement = some h := by
  cases i <;> simp only [content?] at e
  case none =>
    cases h <;> simp only [child?] at e
    case many ns => cases ns <;> cases e; rfl
    case optional o => cases o <;> cases e; rfl
    case one => cases e; rfl
  case some k =>
    split at e
    case h_1 ns =>
      have ⟨m, hm, hc⟩ := Option.map_eq_some_iff.mp e
      subst hc
      have ⟨hk, hm⟩ := List.getElem?_eq_some_iff.mp hm
      simp [Child.replacement, fill?, hk, ← hm]
    case h_2 => cases e

-- Elements of one list do not get into each other's way.
theorem fill?_preserves {k l : Nat} (e : h.fill? (some k) r = some h') (hn : k ≠ l) :
    h'.content? (some l) = h.content? (some l) := by
  unfold fill? at e
  split at e <;> try contradiction
  case h_4 ns k' m hk =>
    cases hk
    split at e <;> cases e
    simp [content?, List.getElem?_set_ne hn]

theorem fill?_of_form (e : h.fill? i r = some h') (hf : r'.isSequence = r.isSequence) :
    ∃ h'', h.fill? i r' = some h'' := by
  cases h <;> cases i <;> cases r <;> cases r' <;>
    simp_all [fill?, Replacement.isSequence]

-- Whatever is put into a slot or one of its elements, the slot stays filled in the same form.
theorem fill?_preserves_form (e : h.fill? i r = some h') (hr : r.child? ≠ none)
    (hc : h.child? = some c) : ∃ c', h'.child? = some c' ∧ c'.isMany = c.isMany := by
  unfold fill? at e
  split at e
  case h_3 ns ms =>
    cases e
    cases ms
    case nil => contradiction
    case cons => cases ns <;> cases hc; exact ⟨_, rfl, rfl⟩
  case h_4 ns k m =>
    split at e <;> cases e
    cases ns <;> cases hc
    cases k <;> exact ⟨_, rfl, rfl⟩
  case h_2 o _ =>
    cases e
    cases o <;> cases hc
    exact ⟨_, rfl, rfl⟩
  case h_1 =>
    cases e
    cases hc
    exact ⟨_, rfl, rfl⟩
  case h_5 => cases e

end Held

namespace Focus

def held : Focus → Held
  | .one n _      => .one n
  | .optional n _ => .optional n
  | .many ns _    => .many ns

-- Putting something into an opened slot: the slot afterwards and the node that holds it.
inductive Put : Focus → Focus → Node → Prop
  | one : Put (.one n put) (.one m put) (put m)
  | optional : Put (.optional n put) (.optional (some m) put) (put m)
  | many : Put (.many ns put) (.many ms put) (put ms)

variable {f f' f₁ f₂ f₃ : Focus} {n' n₂ n₃ : Node} {h : Held} {i : Option Nat} {r : Replacement}

theorem Put.trans (p : Put f₁ f₂ n₂) (q : Put f₂ f₃ n₃) : Put f₁ f₃ n₃ := by
  cases p <;> cases q <;> constructor

theorem Put.eq_of_held_eq (p : Put f f' n') (e : f'.held = f.held) : f' = f := by
  cases p <;> cases e <;> rfl

theorem exists_put (e : f.held.fill? i r = some h) : ∃ f' n', Put f f' n' ∧ f'.held = h := by
  cases f <;> cases i <;> cases r <;> simp only [held, Held.fill?, reduceCtorEq] at e
  case one.none.scalar => exact ⟨_, _, .one, Option.some.inj e⟩
  case optional.none.scalar => exact ⟨_, _, .optional, Option.some.inj e⟩
  case many.none.sequence => exact ⟨_, _, .many, Option.some.inj e⟩
  case many.some.scalar =>
    split at e <;> cases e
    exact ⟨_, _, .many, rfl⟩

end Focus

namespace Node

def held? (n : Node) (slot : Slot) : Option Held := (n.focus? slot).map Focus.held

variable {n n' : Node} {slot t : Slot} {f f' : Focus} {c : Child}

theorem focus?_put (h : n.focus? slot = some f) (p : f.Put f' n') : n'.focus? slot = some f' := by
  unfold focus? at h; split at h
  all_goals
    cases h <;> cases p <;> rfl

theorem focus?_put_self (h : n.focus? slot = some f) (p : f.Put f n') : n' = n := by
  cases p <;> unfold focus? at h <;> split at h
  all_goals
    simp only [Option.some.injEq, Focus.one.injEq, Focus.optional.injEq, Focus.many.injEq,
      reduceCtorEq] at h
  all_goals
    obtain ⟨hm, rfl⟩ := h
    simp only [← hm]

theorem held?_put (h : n.focus? slot = some f) (p : f.Put f' n') (ht : t ≠ slot) :
    n'.held? t = n.held? t := by
  unfold focus? at h; split at h
  all_goals
    cases h <;> cases p <;> cases t <;> first | rfl | exact absurd rfl ht

@[simp]
theorem mem_always : (slot, c) ∈ always t n ↔ slot = t ∧ (Held.one n).child? = some c := by
  simp [always, Held.child?, eq_comm]

@[simp]
theorem mem_present {o : Option Node} :
    (slot, c) ∈ present t o ↔ slot = t ∧ (Held.optional o).child? = some c := by
  cases o <;> simp [present, Held.child?, eq_comm]

@[simp]
theorem mem_nonempty {ns : List Node} :
    (slot, c) ∈ nonempty t ns ↔ slot = t ∧ (Held.many ns).child? = some c := by
  cases ns <;> simp [nonempty, Held.child?, eq_comm]

theorem slots_always (slot : Slot) (n : Node) : ((always slot n).map (·.1)).Sublist [slot] := by
  simp [always]

theorem slots_present (slot : Slot) (o : Option Node) :
    ((present slot o).map (·.1)).Sublist [slot] := by
  cases o <;> simp [present]

theorem slots_nonempty (slot : Slot) (ns : List Node) :
    ((nonempty slot ns).map (·.1)).Sublist [slot] := by
  cases ns <;> simp [nonempty]

-- No slot is listed twice among the children.
theorem nodup_slots (n : Node) : (n.children.map (·.1)).Nodup := by
  cases n <;> simp only [children, List.map_append]
  all_goals
    apply List.Sublist.nodup
    · repeat' apply List.Sublist.append
      all_goals first
        | exact slots_always _ _
        | exact slots_present _ _
        | exact slots_nonempty _ _
        | exact List.Sublist.refl _
    · decide

-- The two tables of slots agree for every kind of node.
theorem mem_children_iff : (slot, c) ∈ n.children ↔ (n.held? slot).bind Held.child? = some c := by
  constructor
  case mp =>
    cases n
    all_goals
      simp only [children, List.mem_append, mem_always, mem_present, mem_nonempty,
        List.not_mem_nil, or_imp, and_imp, false_imp_iff] <;>
      and_intros <;> rintro rfl h <;> exact h
  case mpr =>
    intro h
    unfold held? focus? at h
    split at h
    case h_39 => cases h
    all_goals simpa [children, Focus.held] using h

theorem child?_eq_held : n.child? slot = (n.held? slot).bind Held.child? := by
  ext c
  rw [← mem_children_iff]
  simp only [child?, Option.map_eq_some_iff, Prod.exists, exists_eq_right]
  constructor
  case mp =>
    intro ⟨slot', h⟩
    have hs : slot' = slot := by simpa using List.find?_some h
    exact hs ▸ List.mem_of_find?_eq_some h
  case mpr =>
    intro h
    have ⟨⟨slot', c'⟩, hf⟩ : ∃ e, n.children.find? (·.1 == slot) = some e := by
      rw [← Option.isSome_iff_exists, List.find?_isSome]
      exact ⟨_, h, by simp⟩
    obtain rfl : slot' = slot := by simpa using List.find?_some hf
    have hm := mem_children_iff.mp (List.mem_of_find?_eq_some hf)
    cases hm.symm.trans (mem_children_iff.mp h)
    exact ⟨slot', hf⟩

end Node

end SqlLens
