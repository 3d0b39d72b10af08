import SqlLens.Proofs.Render.Growth
import SqlLens.Proofs.Truncate.Inventory

namespace SqlLens

open Layout

def Child.text : Child → String
  | .one n   => Manner.plain.text n
  | .many ns => Render.joined (ns.map Manner.plain.text)

namespace Layout

variable {as bs : List Layout} {k k' word : Layout} {x : String}

-- A marker in one of several pieces, next to another one that is not empty.
theorem grown_separated (lead : String) (hw : word ∈ as) (nonempty : 0 < word.content.length)
    (hk : k.content = lead ++ x) (hk' : k'.content = lead ++ Render.marker) :
    Grown (Render.marker.length - x.length) (separated " " (as ++ k :: bs)).content
      (separated " " (as ++ k' :: bs)).content := by
  have longer := length_le_separated " " (List.mem_append_left (k :: bs) hw)
  have ⟨pre, post, hs⟩ := exists_content_separated " " as bs
  rw [hs, hk, ← String.append_assoc] at longer
  rw [hs, hs, hk, hk', ← String.append_assoc, ← String.append_assoc]
  exact Grown.marker x (by omega)

-- A marker in parentheses.
theorem grown_parens (l k l' : Layout) (hk : k'.content = Render.marker) :
    Grown (Render.marker.length - k.content.length) (l ++ parens k ++ l').content
      (l ++ parens k' ++ l').content := by
  have text (x : Layout) : (l ++ parens x ++ l').content =
      (l.content ++ "(") ++ x.content ++ (")" ++ l'.content) := by
    simp [Render.parens, String.append_assoc]
  have : "(".length = 1 := rfl
  rw [text, text, hk]
  refine Grown.marker _ ?_
  simp only [String.length_append]
  omega

end Layout

theorem Held.child?_many_eq_some_iff {c : Child} :
    (Held.many ns).child? = some c ↔ ns ≠ [] ∧ .many ns = c := by
  cases ns <;> simp [Held.child?]

-- What a slot holds after one node in it has changed.
inductive Child.Changed (k k' : Node) : Child → Child → Prop
  | one : Changed k k' (.one k) (.one k')
  | many {ns : List Node} {i : Nat} : ns[i]? = some k →
      Changed k k' (.many ns) (.many (ns.set i k'))

theorem Held.exists_changed {h h' : Held} {k k' : Node} {c : Child}
    (hk : h.content? i = some (.one k)) (hc : h.child? = some c)
    (e : h.fill? i (.scalar k') = some h') : ∃ c', h'.child? = some c' ∧ c.Changed k k' c' := by
  cases h <;> cases i <;> simp only [fill?, reduceCtorEq, Option.some.injEq] at e
  case one.none =>
    cases e
    cases hk
    cases hc
    exact ⟨_, rfl, .one⟩
  case optional.none =>
    cases e
    cases hk.symm.trans hc
    exact ⟨_, rfl, .one⟩
  case many.some ns i =>
    split at e <;> cases e
    obtain ⟨filled, rfl⟩ := child?_many_eq_some_iff.mp hc
    obtain ⟨_, hi, h⟩ := Option.map_eq_some_iff.mp hk
    cases h
    exact ⟨_, child?_many_eq_some_iff.mpr ⟨by simpa using filled, rfl⟩, .many hi⟩

namespace Child.Changed

variable {k k' : Node} {c c' : Child} {d : Nat}

theorem isMany_eq (h : c.Changed k k' c') : c'.isMany = c.isMany := by
  cases h <;> rfl

theorem mem (h : c.Changed k k' c') : k ∈ c.nodes := by
  cases h
  case one => exact List.mem_singleton_self k
  case many hi => exact List.mem_of_getElem? hi

theorem forall_mem {P : Node → Prop} (h : c.Changed k k' c') (all : ∀ n ∈ c.nodes, P n)
    (hk : P k') : ∀ n ∈ c'.nodes, P n := by
  cases h
  case one => simpa [nodes] using hk
  case many => exact fun n hn => (List.mem_or_eq_of_mem_set hn).elim (all n) fun e => e ▸ hk

-- The text stays the same, or it has room for a marker.
theorem text (h : c.Changed k k' c') (g : k.Grown d k') (ht : k.HasText) (ht' : k'.HasText) :
    c'.text = c.text ∨ Render.marker.length ≤ c'.text.length := by
  have g := g .plain ht ht'
  cases h
  case one => exact g.imp id fun g => g.2.1
  case many ns i hi =>
    have ⟨hl, hk⟩ := List.getElem?_eq_some_iff.mp hi
    obtain same | ⟨_, room, _⟩ := g
    case inl =>
      left
      rw [Child.text, Child.text, List.map_set, same]
      congr 1
      apply List.ext_getElem (by simp)
      intro j _ _
      rw [List.getElem_set]
      split <;> simp_all
    case inr =>
      right
      have inside : [Segment.part .plain k'] ∈ (ns.set i k').map fun n => [.part .plain n] :=
        List.mem_map_of_mem (List.mem_set hl k')
      have := length_le_separated ", " inside
      simp only [content_cons, content_nil, Segment.content_part, String.append_empty,
        content_separated, List.map_map, Function.comp_def] at this
      exact Nat.le_trans room this

end Child.Changed

namespace Node

variable {n n' : Node} {slot : Slot} {kind : TruncationKind} {content : Child} {path : String}

def marker (content : Child) : Replacement :=
  if content.isMany then .sequence [.truncated] else .scalar .truncated

theorem content_selectWord_pos (distinct : Bool) (on : Option Layout) :
    0 < (selectWord distinct on).content.length := by
  rw [content_selectWord]
  obtain ⟨rest, h⟩ : ∃ rest, Render.selectWord distinct (on.map content) = "SELECT" ++ rest := by
    cases distinct <;> cases on.map content
    case true.some text => exact ⟨" DISTINCT ON " ++ Render.parens text, rfl⟩
    case true.none => exact ⟨" DISTINCT", rfl⟩
    all_goals exact ⟨"", rfl⟩
  rw [h, String.length_append]
  have : "SELECT".length = 6 := rfl
  omega

-- The targets and the condition of a query stand behind its first word.
theorem exists_layout_targets {q : Select Node} (ho : q.op = .none) :
    ∃ as bs, selectWord q.distinct (all? q.distinctClause) ∈ as ∧ ∀ targets, targets ≠ [] →
      (select { q with targetList := targets }).layout? =
        some (separated " " (as ++ all targets :: bs)) := by
  refine ⟨(part? q.withClause).toList ++ [selectWord q.distinct (all? q.distinctClause)],
    clause "FROM" (all? q.fromClause) ++ (clause "WHERE" (part? q.whereClause) ++
      (clause "GROUP BY" (all? q.groupClause) ++ (clause "HAVING" (part? q.havingClause) ++
        (clause "ORDER BY" (all? q.sortClause) ++ (clause "LIMIT" (part? q.limitCount) ++
          clause "OFFSET" (part? q.limitOffset)))))),
    by simp, fun targets filled => ?_⟩
  obtain ⟨t, ts, rfl⟩ := List.exists_cons_of_ne_nil filled
  simp only [layout?, select?, body?_of_op_none (q := { q with targetList := t :: ts }) ho, all?,
    Option.map_some, Option.toList_some, List.append_assoc, List.cons_append, List.nil_append]

theorem exists_layout_cond {q : Select Node} (ho : q.op = .none) :
    ∃ as bs, selectWord q.distinct (all? q.distinctClause) ∈ as ∧ ∀ cond,
      (select { q with whereClause := some cond }).layout? =
        some (separated " " (as ++ [.text "WHERE ", .part .plain cond] :: bs)) := by
  refine ⟨(part? q.withClause).toList ++ ([selectWord q.distinct (all? q.distinctClause)] ++
      (all? q.targetList).toList ++ clause "FROM" (all? q.fromClause)),
    clause "GROUP BY" (all? q.groupClause) ++ (clause "HAVING" (part? q.havingClause) ++
      (clause "ORDER BY" (all? q.sortClause) ++ (clause "LIMIT" (part? q.limitCount) ++
        clause "OFFSET" (part? q.limitOffset)))),
    by simp, fun cond => ?_⟩
  have words : "WHERE" ++ " " = "WHERE " := rfl
  simp only [layout?, select?, body?_of_op_none (q := { q with whereClause := some cond }) ho,
    part?, clause, words, Option.map_some, List.append_assoc, List.cons_append, List.nil_append]

theorem text_truncated : Manner.plain.text .truncated = Render.marker := rfl

theorem grown_targets {q : Select Node} (ho : q.op = .none) (filled : q.targetList ≠ []) :
    (select q).Grown (Render.marker.length - (Child.many q.targetList).text.length)
      (.select { q with targetList := [.truncated] }) := by
  obtain ⟨as, bs, word, layout⟩ := exists_layout_targets ho
  refine grown_of_layout? (fun m => by cases m <;> exact ⟨rfl, rfl⟩)
    (fun m => by cases m <;> rfl) fun l l' hl hl' => ?_
  cases (layout q.targetList filled).symm.trans hl
  cases (layout [.truncated] (by simp)).symm.trans hl'
  refine grown_separated "" word (content_selectWord_pos _ _) ?_ ?_
  case refine_1 => simp [Child.text]
  case refine_2 => simp [Render.joined, text_truncated]

theorem grown_cond {q : Select Node} {cond : Node} (ho : q.op = .none)
    (hc : q.whereClause = some cond) :
    (select q).Grown (Render.marker.length - (Child.one cond).text.length)
      (.select { q with whereClause := some .truncated }) := by
  obtain ⟨as, bs, word, layout⟩ := exists_layout_cond ho
  refine grown_of_layout? (fun m => by cases m <;> exact ⟨rfl, rfl⟩)
    (fun m => by cases m <;> rfl) fun l l' hl hl' => ?_
  have hq : { q with whereClause := some cond } = q := by rw [← hc]
  cases (layout cond).symm.trans (hq ▸ hl)
  cases (layout .truncated).symm.trans hl'
  refine grown_separated "WHERE " word (content_selectWord_pos _ _) ?_ ?_
  case refine_1 => simp [Child.text]
  case refine_2 => simp [text_truncated]

theorem grown_query (q : Cte Node) :
    (cte q).Grown (Render.marker.length - (Child.one q.ctequery).text.length)
      (.cte { q with ctequery := .truncated }) := by
  refine grown_of_layout? (fun m => by cases m <;> exact ⟨rfl, rfl⟩)
    (fun m => by cases m <;> rfl) fun l l' hl hl' => ?_
  cases hl
  cases hl'
  have hm : content [.part .plain .truncated] = Render.marker := by simp [text_truncated]
  have grown := grown_parens [.text (Render.quoteIdent q.name ++ (if q.columns.isEmpty then "" else
    Render.parens (Render.quoteIdents q.columns)) ++ " AS ")] [.part .plain q.ctequery] [] hm
  simpa [Child.text, Layout.cte] using grown

theorem grown_cols {i : Insert Node} (filled : i.cols ≠ []) :
    (insert i).Grown (Render.marker.length - (Child.many i.cols).text.length)
      (.insert { i with cols := [.truncated] }) := by
  refine grown_of_layout? (fun m => by cases m <;> exact ⟨rfl, rfl⟩)
    (fun m => by cases m <;> rfl) fun l l' hl hl' => ?_
  obtain ⟨relation, cols, source⟩ := i
  obtain ⟨c, cs, rfl⟩ := List.exists_cons_of_ne_nil filled
  cases hl
  cases hl'
  have hm : content (all [.truncated]) = Render.marker := by simp [Render.joined, text_truncated]
  have grown := grown_parens [.text "INSERT INTO ", .part .plain relation, .text " "] (all (c :: cs))
    [.text " ", (source.map (.part .plain)).getD (.text "DEFAULT VALUES")] hm
  simpa [Child.text, Layout.insert, all?] using grown

theorem grown_of_omission (hk : n.omission? slot = some kind) (hc : n.child? slot = some content)
    (e : n.fill path ⟨slot, none⟩ (marker content) = .ok n') :
    n.Grown (Render.marker.length - content.text.length) n' := by
  have ⟨f, f', hf, p, _⟩ := fill_ok_iff.mp e
  cases hr : n.reaches slot
  case false => exact grown_of_not_reaches hr hf p
  case true =>
    rw [child?_eq_held] at hc
    unfold omission? at hk
    split at hk
    case h_1 =>
      obtain ⟨filled, rfl⟩ := Held.child?_many_eq_some_iff.mp hc
      cases e
      exact grown_targets (by simpa [reaches] using hr) filled
    case h_2 =>
      obtain ⟨cond, hw, rfl⟩ := Option.map_eq_some_iff.mp hc
      cases e
      exact grown_cond (by simpa [reaches] using hr) hw
    case h_3 =>
      cases hc
      cases e
      exact grown_query _
    case h_4 =>
      obtain ⟨filled, rfl⟩ := Held.child?_many_eq_some_iff.mp hc
      cases e
      exact grown_cols filled
    case h_5 => cases hk

-- A slot that may be left out stands below a node, filled with something that has a text of at least
-- `w` characters.
structure Stands (n : Node) (steps : List Step) (slot : Slot) (kind : TruncationKind) (many : Bool)
    (w : Nat) : Prop where
  filled : ∃ m content, n.resolve? steps = some (.one m) ∧ m.omission? slot = some kind ∧
    m.child? slot = some content ∧ content.isMany = many ∧ (∀ c ∈ content.nodes, c.HasText) ∧
    w ≤ content.text.length

theorem omission?_put {f f' : Focus} (hf : n.focus? slot = some f) (p : f.Put f' n') :
    n'.omission? = n.omission? := by
  funext t
  unfold focus? at hf
  split at hf
  all_goals
    cases hf <;> cases p <;> cases t <;> rfl

theorem content?_slot (n : Node) (slot : Slot) : n.content? ⟨slot, none⟩ = n.child? slot := by
  rw [content?_eq_held, child?_eq_held]
  rfl

theorem child?_of_apart {r : Replacement} {s : Step} (e : n.fill path s r = .ok n')
    (ht : s.slot ≠ slot) : n'.child? slot = n.child? slot := by
  have := fill_preserves e (.slot (t := ⟨slot, none⟩) ht)
  rwa [content?_slot, content?_slot] at this

theorem exists_changed {k k' : Node} {i : Option Nat} (hk : n.step? ⟨slot, i⟩ = some k)
    (hc : n.child? slot = some content) (e : n.fill path ⟨slot, i⟩ (.scalar k') = .ok n') :
    ∃ content', n'.child? slot = some content' ∧ content.Changed k k' content' := by
  obtain ⟨f, f', hf, p, hh⟩ := fill_ok_iff.mp e
  rw [step?_eq_some_iff, content?_eq_held, held?, hf] at hk
  rw [child?_eq_held, held?, hf] at hc
  rw [child?_eq_held, held?, focus?_put hf p]
  exact Held.exists_changed hk hc hh

namespace Stands

variable {steps psteps : List Step} {pslot : Slot} {many : Bool} {w d : Nat} {r : Replacement}

theorem cons_iff {s : Step} : n.Stands (s :: steps) slot kind many w ↔
    ∃ k, n.step? s = some k ∧ k.Stands steps slot kind many w := by
  constructor
  case mp =>
    rintro ⟨m, content, hm, rest⟩
    obtain ⟨k, hk, hm⟩ := resolve?_cons_eq_one_iff.mp hm
    exact ⟨k, hk, m, content, hm, rest⟩
  case mpr =>
    rintro ⟨k, hk, m, content, hm, rest⟩
    exact ⟨m, content, resolve?_cons_eq_one_iff.mpr ⟨k, hk, hm⟩, rest⟩

-- A slot still stands after another one has been filled that is no less deep.
theorem of_refilled (h : n.Stands steps slot kind many w) (hw : w ≤ Render.marker.length)
    (o : Refilled path r d psteps pslot n n') (deep : steps.length ≤ psteps.length)
    (other : steps = psteps → slot ≠ pslot) : n'.Stands steps slot kind many w := by
  induction steps generalizing n n' psteps
  case nil =>
    obtain ⟨m, content, hm, hk, hc, form, texts, long⟩ := h.filled
    cases hm
    cases psteps
    case nil =>
      have ⟨f, f', hf, p, _⟩ := fill_ok_iff.mp o.replaced
      have apart : pslot ≠ slot := fun same => other rfl same.symm
      exact ⟨n', content, rfl, omission?_put hf p ▸ hk, child?_of_apart o.replaced apart ▸ hc, form,
        texts, long⟩
    case cons s rest =>
      obtain ⟨k, k', hs, inner, filled⟩ := o.below
      have ⟨f, f', hf, p, _⟩ := fill_ok_iff.mp filled
      have kind := omission?_put hf p ▸ hk
      by_cases same : s.slot = slot
      case neg =>
        exact ⟨n', content, rfl, kind, child?_of_apart filled same ▸ hc, form, texts, long⟩
      case pos =>
        subst same
        obtain ⟨content', hc', changed⟩ := exists_changed hs hc filled
        have old := texts k changed.mem
        have new := inner.hasText old
        refine ⟨n', content', rfl, kind, hc', changed.isMany_eq.trans form,
          changed.forall_mem texts new, ?_⟩
        obtain text | room := changed.text inner.grown old new
        case inl => exact text ▸ long
        case inr => exact Nat.le_trans hw room
  case cons t rest hi =>
    obtain ⟨k, hk, below⟩ := cons_iff.mp h
    cases psteps
    case nil => simp at deep
    case cons s psteps =>
      obtain ⟨m, m', hm, inner, filled⟩ := o.below
      rw [cons_iff]
      obtain rfl | apart := eq_or_apart hm hk
      case inl =>
        cases hm.symm.trans hk
        refine ⟨m', step?_fill filled, hi below inner (by simpa using deep) fun same => ?_⟩
        exact other (by rw [same])
      case inr =>
        refine ⟨k, ?_, below⟩
        rw [step?_eq_some_iff, fill_preserves filled apart]
        exact step?_eq_some_iff.mp hk

end Stands

end Node

end SqlLens
