import SqlLens.Proofs.Except
import SqlLens.Proofs.Render.Layout

namespace SqlLens

open Layout

namespace Render

variable {o : Option Node} {ns : List Node} {n : Node}

theorem render_eq_ok_iff {m : Manner} : m.render n = .ok s ↔ m.HasText n ∧ m.text n = s := by
  cases h : m.render n <;> simp [Manner.HasText, Manner.text, h, Except.toOption]

theorem node_eq_ok_iff : node n = .ok s ↔ Manner.plain.HasText n ∧ Manner.plain.text n = s := by
  rw [← render_eq_ok_iff, Manner.render, Except.map_eq_ok_iff]
  · simp [Manner.encloses, parensIf]
  · simp
  · simp

theorem list_eq_ok_iff : list ns = .ok ss ↔
    (∀ n ∈ ns, Manner.plain.HasText n) ∧ ns.map Manner.plain.text = ss := by
  induction ns generalizing ss
  case nil => simp [list]
  case cons n ns hi => simp [list, Except.bind_eq_ok_iff, node_eq_ok_iff, hi, and_assoc]

-- A child that may be absent, written in some manner.
theorem child_eq_ok_iff {read : Option Node → Except RenderFault (Option String)} (m : Manner)
    (absent : read none = .ok none) (present : ∀ n, read (some n) = some <$> m.render n) :
    read o = .ok os ↔ (∀ n ∈ o, m.HasText n) ∧ o.map m.text = os := by
  cases o
  case none => simp [absent]
  case some n => simp [present, Except.map_eq_ok_iff, render_eq_ok_iff, and_assoc]

theorem option_eq_ok_iff : option o = .ok os ↔
    (∀ n ∈ o, Manner.plain.HasText n) ∧ o.map Manner.plain.text = os := by
  refine child_eq_ok_iff .plain rfl fun n => ?_
  rw [option, Manner.render] <;> first | cases node n <;> rfl | simp

theorem enclosed_eq_ok_iff : enclosed o = .ok os ↔
    (∀ n ∈ o, Manner.operand.HasText n) ∧ o.map Manner.operand.text = os := by
  refine child_eq_ok_iff .operand rfl fun n => ?_
  rw [enclosed, Manner.render] <;> first | cases node n <;> rfl | simp

theorem connected_eq_ok_iff (parent : OperatorKind) : connected parent o = .ok os ↔
    (∀ n ∈ o, (Manner.below parent).HasText n) ∧ o.map (Manner.below parent).text = os := by
  refine child_eq_ok_iff (.below parent) rfl fun n => ?_
  rw [connected, Manner.render] <;> first | cases node n <;> rfl | simp

theorem listed_eq_ok_iff : listed o = .ok os ↔
    (∀ n ∈ o, Manner.listed.HasText n) ∧ o.map Manner.listed.text = os := by
  refine child_eq_ok_iff .listed rfl fun n => ?_
  rw [listed, Manner.render] <;> first | cases node n <;> rfl | simp

theorem bounds_eq_ok_iff : bounds o = .ok os ↔
    (∀ n ∈ o, Manner.range.HasText n) ∧ o.map Manner.range.text = os := by
  refine child_eq_ok_iff .range rfl fun n => ?_
  rw [Manner.render]
  unfold bounds
  split
  case h_1 => contradiction
  case h_2 low high h =>
    cases node low <;> cases node high <;> rfl
  case h_3 => cases node _ <;> rfl

theorem assignments_cons (n : Node) (ns : List Node) : assignments (n :: ns) = do
    let s ← Manner.assignment.render n
    let rest ← assignments ns
    return s :: rest := by
  cases n
  case target t =>
    obtain ⟨_ | name, _ | val⟩ := t
    case some.some =>
      simp only [Manner.render, assignments]
      cases node val <;> rfl
    all_goals simp only [Manner.render, assignments]; rfl
  all_goals
    simp only [Manner.render, assignments]
    cases node _ <;> rfl

theorem assignments_eq_ok_iff : assignments ns = .ok ss ↔
    (∀ n ∈ ns, Manner.assignment.HasText n) ∧ ns.map Manner.assignment.text = ss := by
  induction ns generalizing ss
  case nil => simp [assignments]
  case cons n ns hi =>
    simp [assignments_cons, Except.bind_eq_ok_iff, render_eq_ok_iff, hi, and_assoc]

theorem require_eq_ok_iff (fault : RenderFault) (o : Option String) :
    require fault o = .ok s ↔ o = some s := by
  cases o <;> simp [require]

theorem arm_eq_ok_iff : arm o = .ok os ↔
    (∀ n ∈ o, Manner.arm.HasText n) ∧ o.map Manner.arm.text = os := by
  refine child_eq_ok_iff .arm rfl fun n => ?_
  rw [arm, Manner.render] <;> first | cases node n <;> rfl | simp

-- In most manners a node is written plainly and then enclosed or not.
theorem render_eq_parensIf {m : Manner} (hr : m ≠ .range) (ha : m ≠ .assignment) :
    m.render n = parensIf (m.encloses n) <$> node n := by
  cases m <;> first | rfl | contradiction

theorem hasText_iff_plain {m : Manner} (hr : m ≠ .range) (ha : m ≠ .assignment) :
    m.HasText n ↔ Manner.plain.HasText n := by
  simp [Manner.HasText, render_eq_parensIf hr ha, Except.map_eq_ok_iff, node_eq_ok_iff]

theorem text_eq_parensIf (m : Manner) (hr : m ≠ .range) (ha : m ≠ .assignment)
    (h : Manner.plain.HasText n) : m.text n = parensIf (m.encloses n) (Manner.plain.text n) := by
  have hn := node_eq_ok_iff.mpr ⟨h, rfl⟩
  have hm : m.render n = .ok (parensIf (m.encloses n) (Manner.plain.text n)) := by
    rw [render_eq_parensIf hr ha, hn]
    rfl
  exact (render_eq_ok_iff.mp hm).2

theorem select_eq_ok_iff (q : Select Node) : select q = .ok s ↔
    ∃ l, select? q = some l ∧ l.Each Manner.HasText ∧ l.content = s := by
  obtain ⟨op, all, distinct, on, targets, sources, cond, groups, having, order, limit, offset, ctes,
    l, r⟩ := q
  cases h : op != .none
  case true =>
    cases l <;> cases r <;>
      simp [select, h, select?, body?, check, Except.bind_eq_ok_iff, option_eq_ok_iff,
        list_eq_ok_iff, arm_eq_ok_iff, map_content_toList, and_assoc]
  case false =>
    have bare (on : Option String) : Render.selectWord false on = "SELECT" := by cases on <;> rfl
    cases distinct <;>
      simp [select, h, select?, body?, Except.bind_eq_ok_iff, option_eq_ok_iff, list_eq_ok_iff,
        map_content_toList, and_assoc, bare]

theorem operator_eq_ok_iff (q : Operator Node) : operator q = .ok s ↔
    ∃ l, operator? q = some l ∧ l.Each Manner.HasText ∧ l.content = s := by
  obtain ⟨kind, name, l, r⟩ := q
  cases kind <;> cases l <;> cases r
  all_goals
    simp [operator, operator?, Except.bind_eq_ok_iff, enclosed_eq_ok_iff, connected_eq_ok_iff,
      listed_eq_ok_iff, bounds_eq_ok_iff, option_eq_ok_iff, require_eq_ok_iff, and_assoc,
      and_left_comm, String.append_assoc]

theorem call_eq_ok_iff (c : Call Node) : node (.call c) = .ok s ↔
    (Layout.call c).Each Manner.HasText ∧ (Layout.call c).content = s := by
  obtain ⟨name, args, order, filter, withinGroup, star, distinct⟩ := c
  cases star <;> cases order <;> cases filter <;> cases withinGroup <;>
    simp [node, Layout.call, callOrder, callText, all?, joined?, Except.bind_eq_ok_iff,
      option_eq_ok_iff, list_eq_ok_iff, String.append_assoc, and_assoc]

theorem sublink_eq_ok_iff (q : Sublink Node) : node (.sublink q) = .ok s ↔
    ∃ l, sublink? q = some l ∧ l.Each Manner.HasText ∧ l.content = s := by
  obtain ⟨kind, op, test, query⟩ := q
  -- Only one spelling of the operator is special.
  obtain rfl | rfl | ⟨op, rfl, h⟩ :
      op = none ∨ op = some "=" ∨ ∃ s, op = some s ∧ s ≠ "=" := by cases op <;> grind
  all_goals
    cases kind <;> cases test <;>
      simp [node, sublink?, Except.bind_eq_ok_iff, enclosed_eq_ok_iff, require_eq_ok_iff,
        node_eq_ok_iff, String.append_assoc, and_assoc, and_left_comm, *]

theorem node_eq_ok_iff_layout : node n = .ok s ↔
    ∃ l, n.layout? = some l ∧ l.Each Manner.HasText ∧ l.content = s := by
  cases n
  case select q => simpa [node, Node.layout?] using select_eq_ok_iff q
  case operator q => simpa [node, Node.layout?] using operator_eq_ok_iff q
  case call c => simpa [Node.layout?] using call_eq_ok_iff c
  case sublink q => simpa [Node.layout?] using sublink_eq_ok_iff q
  case star => simp [node, Node.layout?]
  case truncated => simp [node, Node.layout?]
  case const c => simp [node, Node.layout?]
  case insert i =>
    obtain ⟨relation, cols, source⟩ := i
    cases cols <;> cases source <;>
      simp [node, Node.layout?, Except.bind_eq_ok_iff, node_eq_ok_iff, option_eq_ok_iff,
        list_eq_ok_iff, Layout.insert, all?, String.append_assoc, and_assoc]
  case join j =>
    obtain ⟨kind, natural, l, r, names, quals⟩ := j
    by_cases h : Manner.plain.HasText r
    case neg =>
      simp [node, Node.layout?, Except.bind_eq_ok_iff, node_eq_ok_iff, h, Layout.join,
        hasText_iff_plain]
    case pos =>
      cases quals <;> cases names <;>
        simp [node, Node.layout?, Except.bind_eq_ok_iff, node_eq_ok_iff, option_eq_ok_iff, h,
          Layout.join, hasText_iff_plain, text_eq_parensIf .joined, Manner.encloses,
          String.append_assoc, and_assoc]
  case target t =>
    obtain ⟨_ | name, _ | val⟩ := t <;>
      simp [node, Node.layout?, target?, Except.bind_eq_ok_iff, option_eq_ok_iff,
        String.append_assoc]
  case nullTest t =>
    obtain ⟨arg, negated⟩ := t
    by_cases h : Manner.plain.HasText arg <;>
      simp [node, Node.layout?, Except.bind_eq_ok_iff, node_eq_ok_iff, h, hasText_iff_plain,
        text_eq_parensIf .operand, Manner.encloses]
  case column c =>
    obtain ⟨fields⟩ := c
    cases fields <;> simp [node, column, Node.layout?]
  case other o =>
    obtain ⟨kind, _ | sql⟩ := o <;> simp [node, Node.layout?, require]
  all_goals
    rename_i r
    cases r
    simp [node, Node.layout?, Layout.update, Layout.delete, Layout.derived, Layout.cte,
      Except.bind_eq_ok_iff, node_eq_ok_iff, option_eq_ok_iff, list_eq_ok_iff,
      assignments_eq_ok_iff, String.append_assoc, and_assoc, Function.comp_def]

end Render

open Render

-- A node has a text if it has a layout whose parts have texts, and then it is the layout with the
-- texts of the parts filled in.
theorem Manner.render_eq_ok_iff_layout {m : Manner} {n : Node} : m.render n = .ok s ↔
    ∃ l, m.layout? n = some l ∧ l.Each Manner.HasText ∧ l.content = s := by
  unfold Manner.layout?
  split
  case h_1 low high =>
    by_cases hl : Manner.plain.HasText low <;> by_cases hh : Manner.plain.HasText high <;>
      simp [Manner.render, bounds, Except.bind_eq_ok_iff, node_eq_ok_iff, hasText_iff_plain,
        text_eq_parensIf .operand, Manner.encloses, hl, hh, String.append_assoc]
  case h_2 name val =>
    simp [Manner.render, assignments, Except.bind_eq_ok_iff, node_eq_ok_iff, Render.joined]
  case h_3 t incomplete =>
    obtain ⟨_ | name, _ | val⟩ := t
    case some.some => exact absurd rfl (incomplete name val)
    all_goals simp [Manner.render, assignments]
  case h_4 pair _ target =>
    have render : m.render n = Render.parensIf (m.encloses n) <$> node n := by
      cases m
      case range =>
        rw [Manner.render, bounds]
        · cases node n <;> rfl
        · exact fun low high => pair low high rfl
      case assignment =>
        rw [Manner.render, assignments]
        · cases node n <;> rfl
        · exact fun name val => target _ rfl
        · exact fun t => target t rfl
      all_goals rfl
    simp [render, Except.map_eq_ok_iff, node_eq_ok_iff_layout, and_assoc]

theorem Manner.hasText_iff {m : Manner} {n : Node} :
    m.HasText n ↔ ∃ l, m.layout? n = some l ∧ l.Each Manner.HasText := by
  simp only [HasText, render_eq_ok_iff_layout]
  grind

theorem Manner.text_eq_content {m : Manner} {n : Node} (hl : m.layout? n = some l)
    (h : l.Each Manner.HasText) : m.text n = l.content :=
  (render_eq_ok_iff.mp (render_eq_ok_iff_layout.mpr ⟨l, hl, h, rfl⟩)).2

end SqlLens
