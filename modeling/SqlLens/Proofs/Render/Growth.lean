import SqlLens.Proofs.Render.Frame

namespace SqlLens

-- The new text is the old one. Or neither is empty, there is room for a marker in the new one, and it
-- is no more than `d` characters longer.
def Grown (d : Nat) (old new : String) : Prop :=
  new = old ∨ 0 < old.length ∧ Render.marker.length ≤ new.length ∧ new.length ≤ old.length + d

namespace Grown

variable {d : Nat} {old new : String}

theorem mono {d' : Nat} (h : Grown d old new) (hd : d ≤ d') : Grown d' old new :=
  h.imp id fun ⟨filled, room, length⟩ => ⟨filled, room, by omega⟩

theorem length_le (h : Grown d old new) : new.length ≤ old.length + d := by
  obtain rfl | ⟨_, _, h⟩ := h
  case inl => omega
  case inr => exact h

theorem isEmpty_eq (h : Grown d old new) : old.isEmpty = new.isEmpty := by
  obtain rfl | ⟨ho, hn, _⟩ := h
  case inl => rfl
  case inr =>
    have hm : Render.marker.length = 3 := rfl
    have nonempty {s : String} (h : 0 < s.length) : s.isEmpty = false := by
      rw [Bool.eq_false_iff]
      intro empty
      simp [String.isEmpty_iff.mp empty] at h
    rw [nonempty ho, nonempty (by omega)]

theorem around (h : Grown d old new) (pre post : String) :
    Grown d (pre ++ old ++ post) (pre ++ new ++ post) := by
  obtain rfl | h := h
  case inl => exact .inl rfl
  case inr =>
    refine .inr ?_
    simp only [String.length_append]
    omega

theorem parensIf (h : Grown d old new) (b : Bool) :
    Grown d (Render.parensIf b old) (Render.parensIf b new) := by
  cases b
  case false => exact h
  case true => exact h.around "(" ")"

-- A marker in the place of something in a text.
theorem marker {pre post : String} (s : String) (h : 0 < (pre ++ s ++ post).length) :
    Grown (Render.marker.length - s.length) (pre ++ s ++ post) (pre ++ Render.marker ++ post) := by
  refine .inr ⟨h, ?_⟩
  simp only [String.length_append]
  omega

end Grown

namespace Layout

variable {l : Layout} {ls : List Layout}

theorem length_le_separated (sep : String) (h : l ∈ ls) :
    l.content.length ≤ (separated sep ls).content.length := by
  obtain ⟨as, bs, rfl⟩ := List.append_of_mem h
  have ⟨pre, post, hs⟩ := exists_content_separated sep as bs
  simp only [hs, String.length_append]
  omega

theorem selectWord_false (on : Option Layout) : selectWord false on = [.text "SELECT"] := by
  cases on <;> rfl

end Layout

open Layout

namespace Node

variable {n n' m c c' : Node} {s : Step} {slot : Slot} {f f' : Focus} {d : Nat} {path : String}

-- In every manner in which both nodes can be written.
def Grown (d : Nat) (n n' : Node) : Prop :=
  ∀ m : Manner, m.HasText n → m.HasText n' → SqlLens.Grown d (m.text n) (m.text n')

theorem Grown.mono {d' : Nat} (h : n.Grown d n') (hd : d ≤ d') : n.Grown d' n' :=
  fun m ht ht' => (h m ht ht').mono hd

-- For nodes that are written plainly, and then enclosed or not, the layouts decide.
theorem grown_of_layout? (special : ∀ m : Manner, m.special n = false ∧ m.special n' = false)
    (encloses : ∀ m : Manner, m.encloses n' = m.encloses n)
    (h : ∀ l l', n.layout? = some l → n'.layout? = some l' →
      SqlLens.Grown d l.content l'.content) : n.Grown d n' := by
  intro m ht ht'
  obtain ⟨l, hl, each⟩ := Manner.hasText_iff.mp ht
  obtain ⟨l', hl', each'⟩ := Manner.hasText_iff.mp ht'
  rw [Manner.text_eq_content hl each, Manner.text_eq_content hl' each']
  rw [Manner.layout?_of_not_special (special m).1] at hl
  rw [Manner.layout?_of_not_special (special m).2, encloses] at hl'
  obtain ⟨k, hk, rfl⟩ := Option.map_eq_some_iff.mp hl
  obtain ⟨k', hk', rfl⟩ := Option.map_eq_some_iff.mp hl'
  rw [content_parensIf, content_parensIf]
  exact (h k k' hk hk').parensIf _

-- What a slot holds that is not written does not matter.
theorem put_of_not_reaches (hr : n.reaches slot = false) (hf : n.focus? slot = some f)
    (p : f.Put f' n') : n'.layout? = n.layout? ∧
      ∀ m : Manner, m.special n = false ∧ m.special n' = false ∧ m.encloses n' = m.encloses n := by
  cases n
  case select q =>
    constructor
    case left =>
      cases slot <;> cases hf <;> cases p <;>
      simp only [reaches, beq_eq_false_iff_ne, bne_eq_false_iff_eq, Bool.and_eq_false_iff,
        Bool.true_eq_false] at hr
      case distinctClause.refl.many =>
        obtain ho | hd := hr
        case inl => simp [layout?, select?, body?, ho]
        case inr => simp [layout?, select?, body?, hd, selectWord_false]
      all_goals simp [layout?, select?, body?, hr]
    case right =>
      intro m
      cases slot <;> cases hf <;> cases p <;>
      first | cases hr | (cases m <;> exact ⟨rfl, rfl, rfl⟩)
  case operator o =>
    obtain ⟨kind, name, l, r⟩ := o
    cases slot <;> cases hf <;> cases p <;> cases kind <;> cases hr
    cases l <;> cases r <;> exact ⟨rfl, fun m => by cases m <;> exact ⟨rfl, rfl, rfl⟩⟩
  case call q =>
    cases slot <;> cases hf <;> cases p <;>
    simp only [reaches, Bool.not_eq_false', Bool.true_eq_false] at hr
    exact ⟨by simp [layout?, Layout.call, hr], fun m => by cases m <;> exact ⟨rfl, rfl, rfl⟩⟩
  case sublink q =>
    obtain ⟨kind, op, test, query⟩ := q
    cases slot <;> cases hf <;> cases p <;> cases kind <;> cases hr
    all_goals exact ⟨rfl, fun m => by cases m <;> exact ⟨rfl, rfl, rfl⟩⟩
  all_goals cases hr

theorem grown_of_not_reaches (hr : n.reaches slot = false) (hf : n.focus? slot = some f)
    (p : f.Put f' n') : n.Grown d n' := by
  have ⟨layout, alike⟩ := put_of_not_reaches hr hf p
  refine grown_of_layout? (fun m => ⟨(alike m).1, (alike m).2.1⟩) (fun m => (alike m).2.2) ?_
  intro l l' hl hl'
  cases hl.symm.trans (layout.symm.trans hl')
  exact .inl rfl

theorem wellFormed_of_isSome_layout? {m : Manner} (h : (m.layout? n).isSome) : n.wellFormed := by
  unfold Manner.layout? at h
  split at h
  case h_3 => cases h
  case h_4 => simpa [isSome_layout?] using h
  all_goals rfl

theorem grown_of_focusStep? {put : Node → Node} (h : n.focusStep? s = some (c, put))
    (hc : c.Grown d c') : n.Grown d (put c') := by
  have ⟨hs, filled⟩ := focusStep?_eq_some "" h
  have ⟨f, f', hf, p, _⟩ := fill_ok_iff.mp (filled c')
  cases hr : n.reaches s.slot
  case false => exact grown_of_not_reaches hr hf p
  case true =>
    intro m ht ht'
    obtain ⟨l, hl, each⟩ := Manner.hasText_iff.mp ht
    have hm : (m.layout? n).isSome := by simp [hl]
    have ⟨k, k', hk, hk', m', pre, post, part, part', texts⟩ :=
      swap_of_focusStep? (wellFormed_of_isSome_layout? hm) hr h hm c c'
    have same : put c = n :=
      Except.ok.inj ((filled c).symm.trans (fill_self "" (step?_eq_some_iff.mp hs)))
    rw [same] at hk
    cases hl.symm.trans hk
    obtain ⟨l', hl', each'⟩ := Manner.hasText_iff.mp ht'
    cases hl'.symm.trans hk'
    have grown := hc m' (each _ part) (each' _ part')
    obtain ⟨text, text'⟩ := texts grown.isEmpty_eq
    rw [Manner.text_eq_content hl each, Manner.text_eq_content hl' each', text, text']
    exact grown.around pre post

-- A slot somewhere below a node is filled anew, with something that can be written. The node that has
-- the slot becomes longer by no more than `d` characters.
structure Refilled (path : String) (r : Replacement) (d : Nat) (steps : List Step) (slot : Slot)
    (n n' : Node) : Prop where
  replaced : n.replace path (steps ++ [⟨slot, none⟩]) r = .ok n'
  writable : ∀ m ∈ r.nodes, m.HasText ∧ m.assignable
  parent   : ∃ m, n.resolve? steps = some (.one m) ∧
    ∀ m', m.fill path ⟨slot, none⟩ r = .ok m' → m.Grown d m'

namespace Refilled

variable {r : Replacement} {steps : List Step}

theorem below (h : Refilled path r d (s :: steps) slot n n') :
    ∃ k k', n.step? s = some k ∧ Refilled path r d steps slot k k' ∧
      n.fill path s (.scalar k') = .ok n' := by
  obtain ⟨m, hm, last⟩ := h.parent
  obtain ⟨k, hk, hm⟩ := resolve?_cons_eq_one_iff.mp hm
  have ⟨k', e, filled⟩ : ∃ k', k.replace path (steps ++ [⟨slot, none⟩]) r = .ok k' ∧
      n.fill path s (.scalar k') = .ok n' := by
    have e := h.replaced
    cases steps <;>
    · obtain ⟨k₁, k', hk₁, e, filled⟩ := replace_cons_ok_iff.mp e
      cases hk.symm.trans hk₁
      exact ⟨k', e, filled⟩
  exact ⟨k, k', hk, ⟨e, h.writable, m, hm, last⟩, filled⟩

theorem hasText (h : Refilled path r d steps slot n n') (ht : n.HasText) : n'.HasText :=
  hasText_inherited.of_replace h.replaced ht h.writable

-- What is true of the node that has the slot is true of every node above it.
theorem grown (h : Refilled path r d steps slot n n') : n.Grown d n' := by
  induction steps generalizing n n'
  case nil =>
    obtain ⟨m, hm, last⟩ := h.parent
    cases hm
    exact last n' h.replaced
  case cons t rest hi =>
    obtain ⟨k, k', hk, inner, filled⟩ := h.below
    obtain ⟨put, hp⟩ := exists_focusStep? hk
    obtain rfl : put k' = n' :=
      Except.ok.inj (((focusStep?_eq_some path hp).2 k').symm.trans filled)
    exact grown_of_focusStep? hp (hi inner)

end Refilled

end Node

-- What is true of one of several statements is true of all of them together.
theorem grown_sql_of_set {S : List Node} (hn : S[i]? = some n) (g : n.Grown d n')
    (full : Renderer.sql S = .ok s) (full' : Renderer.sql (S.set i n') = .ok s') : Grown d s s' := by
  obtain ⟨hi, hn⟩ := List.getElem?_eq_some_iff.mp hn
  have texts := Node.exists_sql_iff.mp ⟨s, full⟩
  have texts' := Node.exists_sql_iff.mp ⟨s', full'⟩
  have hasText : n.HasText := texts n (hn ▸ List.getElem_mem hi)
  have hasText' : n'.HasText := texts' n' (List.mem_set hi n')
  obtain ⟨pre, post, sql⟩ := exists_sql_of_set texts hi
  have same : S.set i n = S := by simp [← hn]
  have old := sql n hasText
  rw [same, full] at old
  have new := sql n' hasText'
  rw [full'] at new
  cases old
  cases new
  exact (g .plain hasText hasText').around pre post

end SqlLens
