import SqlLens.Proofs.Render.Reached

namespace SqlLens

namespace Layout

-- The layouts are filled in alike, but for one place where one shows `c` and the other `c'`.
def Swap (c c' : Node) (l l' : Layout) : Prop := ∃ m pre post, .part m c ∈ l ∧ .part m c' ∈ l' ∧
  ((m.text c).isEmpty = (m.text c').isEmpty →
    l.content = pre ++ m.text c ++ post ∧ l'.content = pre ++ m.text c' ++ post)

-- The same for one of several layouts.
def SwapIn (c c' : Node) (ls ls' : List Layout) : Prop :=
  ∃ as l l' bs, Swap c c' l l' ∧ ls = as ++ l :: bs ∧ ls' = as ++ l' :: bs

variable {c c' : Node} {l l' a b : Layout} {ls ls' as bs : List Layout} {ns : List Node} {i : Nat}

theorem swap_head (m : Manner) : Swap c c' (.part m c :: b) (.part m c' :: b) :=
  ⟨m, "", b.content, by simp, by simp, by simp⟩

theorem Swap.append_left (h : Swap c c' l l') : Swap c c' (a ++ l) (a ++ l') := by
  obtain ⟨m, pre, post, hc, hc', h⟩ := h
  exact ⟨m, a.content ++ pre, post, by simp [hc], by simp [hc'],
    fun e => by simp [h e, String.append_assoc]⟩

theorem Swap.append_right (h : Swap c c' l l') : Swap c c' (l ++ b) (l' ++ b) := by
  obtain ⟨m, pre, post, hc, hc', h⟩ := h
  exact ⟨m, pre, post ++ b.content, by simp [hc], by simp [hc'],
    fun e => by simp [h e, String.append_assoc]⟩

theorem Swap.cons {segment : Segment} (h : Swap c c' l l') :
    Swap c c' (segment :: l) (segment :: l') :=
  h.append_left (a := [segment])

theorem Swap.parens (h : Swap c c' l l') : Swap c c' (parens l) (parens l') := h.cons.append_right

theorem Swap.parensIf {x : Bool} (h : Swap c c' l l') :
    Swap c c' (parensIf x l) (parensIf x l') := by
  cases x
  case false => exact h
  case true => exact h.parens

-- The one text that looks at what stands before it: a blank if that is not empty.
theorem Swap.callOrder {withinGroup : Bool} {order : Option Layout} (h : Swap c c' l l') :
    Swap c c' (l ++ callOrder withinGroup l order) (l' ++ callOrder withinGroup l' order) := by
  obtain ⟨m, pre, post, hc, hc', h⟩ := h
  refine ⟨m, pre, post ++ content (Layout.callOrder withinGroup l order), by simp [hc],
    by simp [hc'], fun e => ?_⟩
  have ⟨hl, hl'⟩ := h e
  have empty : (content l).isEmpty = (content l').isEmpty := by
    rw [Bool.eq_iff_iff, String.isEmpty_iff, String.isEmpty_iff] at e ⊢
    simp [hl, hl', e]
  have same : content (Layout.callOrder withinGroup l order) =
      content (Layout.callOrder withinGroup l' order) := by
    cases order <;> simp only [Layout.callOrder, empty]
  rw [content_append, content_append, ← same, hl, hl']
  simp only [String.append_assoc, and_self]

theorem exists_content_separated (sep : String) (as bs : List Layout) :
    ∃ pre post, ∀ l, content (separated sep (as ++ l :: bs)) = pre ++ content l ++ post := by
  induction as
  case nil =>
    cases bs
    case nil => exact ⟨"", "", by simp⟩
    case cons b bs => exact ⟨"", sep ++ content (separated sep (b :: bs)), by simp [separated]⟩
  case cons a as hi =>
    have ⟨pre, post, h⟩ := hi
    refine ⟨content a ++ sep ++ pre, post, fun l => ?_⟩
    rw [List.cons_append, separated, content_append, content_cons, h]
    · simp [String.append_assoc]
    · simp

theorem mem_separated {sep : String} {x : Segment} (hl : l ∈ ls) (hx : x ∈ l) :
    x ∈ separated sep ls := by
  fun_induction separated sep ls
  case case1 => cases hl
  case case2 => simpa [List.mem_singleton.mp hl] using hx
  case case3 l' ls _ hi =>
    obtain rfl | hl := List.mem_cons.mp hl
    · simp [hx]
    · simp [hi hl]

theorem SwapIn.separated {sep : String} (h : SwapIn c c' ls ls') :
    Swap c c' (separated sep ls) (separated sep ls') := by
  obtain ⟨as, l, l', bs, ⟨m, pre, post, hc, hc', h⟩, rfl, rfl⟩ := h
  have ⟨pre', post', hs⟩ := exists_content_separated sep as bs
  refine ⟨m, pre' ++ pre, post ++ post', mem_separated (by simp) hc, mem_separated (by simp) hc',
    fun e => ?_⟩
  simp [hs, h e, String.append_assoc]

theorem SwapIn.append_left (h : SwapIn c c' ls ls') : SwapIn c c' (as ++ ls) (as ++ ls') := by
  obtain ⟨as', l, l', bs, h, rfl, rfl⟩ := h
  exact ⟨as ++ as', l, l', bs, h, by simp, by simp⟩

theorem SwapIn.append_right (h : SwapIn c c' ls ls') : SwapIn c c' (ls ++ bs) (ls' ++ bs) := by
  obtain ⟨as, l, l', bs', h, rfl, rfl⟩ := h
  exact ⟨as, l, l', bs' ++ bs, h, by simp, by simp⟩

theorem SwapIn.cons (h : SwapIn c c' ls ls') : SwapIn c c' (l :: ls) (l :: ls') := by
  obtain ⟨as, k, k', bs, h, rfl, rfl⟩ := h
  exact ⟨l :: as, k, k', bs, h, rfl, rfl⟩

theorem SwapIn.head (h : Swap c c' l l') : SwapIn c c' (l :: bs) (l' :: bs) :=
  ⟨[], l, l', bs, h, rfl, rfl⟩

-- What stands between the outer clauses of a query.
theorem SwapIn.body (h : SwapIn c c' ls ls') :
    SwapIn c c' (as ++ ls ++ xs ++ ys ++ zs) (as ++ ls' ++ xs ++ ys ++ zs) :=
  h.append_left.append_right.append_right.append_right

theorem swapIn_map (m : Manner) (hi : i < ns.length) :
    SwapIn c c' ((ns.set i c).map fun n => [.part m n])
      ((ns.set i c').map fun n => [.part m n]) := by
  refine ⟨(ns.take i).map fun n => [.part m n], [.part m c], [.part m c'],
    (ns.drop (i + 1)).map fun n => [.part m n], swap_head m, ?_, ?_⟩
  all_goals simp [List.set_eq_take_append_cons_drop, hi]

theorem swap_all (hi : i < ns.length) : Swap c c' (all (ns.set i c)) (all (ns.set i c')) :=
  (swapIn_map .plain hi).separated

theorem all?_set (hi : i < ns.length) (c : Node) : all? (ns.set i c) = some (all (ns.set i c)) := by
  cases ns
  case nil => simp at hi
  case cons n ns => cases i <;> rfl

theorem swapIn_part? : SwapIn c c' (part? (some c)).toList (part? (some c')).toList :=
  .head (swap_head .plain)

theorem swapIn_all? (hi : i < ns.length) :
    SwapIn c c' (all? (ns.set i c)).toList (all? (ns.set i c')).toList := by
  simp only [all?_set hi]
  exact .head (swap_all hi)

theorem swapIn_clause_part? {keyword : String} :
    SwapIn c c' (clause keyword (part? (some c))) (clause keyword (part? (some c'))) :=
  .head (.cons (swap_head .plain))

theorem swapIn_clause_all? {keyword : String} (hi : i < ns.length) :
    SwapIn c c' (clause keyword (all? (ns.set i c))) (clause keyword (all? (ns.set i c'))) := by
  simp only [all?_set hi]
  exact .head (.cons (swap_all hi))

end Layout

open Layout

namespace Focus

-- Whatever child is put into the place, the layouts only differ where they show the child.
def Shown (put : Node → Node) : Prop := ∀ c c', ∃ l l',
  (put c).layout? = some l ∧ (put c').layout? = some l' ∧ Swap c c' l l'

-- `P` holds of the ways to put another child in the place of one that the slot holds.
def Each (P : (Node → Node) → Prop) : Focus → Prop
  | .one _ put => P put
  | .optional o put => o.isSome → P put
  | .many ns put => ∀ i < ns.length, P fun c => put (ns.set i c)

-- The slot shows each child that it holds.
abbrev Shows : Focus → Prop := Each Shown

end Focus

open Focus

namespace Node

variable {n c : Node} {s : Step} {put : Node → Node} {m : Manner} {slot : Slot} {f : Focus}

theorem exists_body? {q : Select Node} (h : (select q).wellFormed) :
    ∃ body, body? q = some body := by
  rw [← isSome_layout?, layout?, select?, Option.isSome_map] at h
  exact Option.isSome_iff_exists.mp h

theorem shown_select {put : Node → Select Node} {body : Node → List Layout}
    (hb : ∀ c, body? (put c) = some (body c))
    (h : ∀ c c', SwapIn c c'
      ((part? (put c).withClause).toList ++ body c ++ clause "ORDER BY" (all? (put c).sortClause) ++
        clause "LIMIT" (part? (put c).limitCount) ++ clause "OFFSET" (part? (put c).limitOffset))
      ((part? (put c').withClause).toList ++ body c' ++
        clause "ORDER BY" (all? (put c').sortClause) ++
        clause "LIMIT" (part? (put c').limitCount) ++
        clause "OFFSET" (part? (put c').limitOffset))) :
    Shown fun c => .select (put c) :=
  fun c c' => ⟨_, _, by rw [layout?, select?, hb, Option.map_some],
    by rw [layout?, select?, hb, Option.map_some], (h c c').separated⟩

theorem exists_arms {q : Select Node} (h : (select q).wellFormed) (ho : q.op ≠ .none) :
    (∃ l, q.larg = some l) ∧ ∃ r, q.rarg = some r := by
  simpa [wellFormed, ho, Option.isSome_iff_exists] using h

theorem shows_select {q : Select Node} (whole : (select q).wellFormed)
    (hr : (select q).reaches slot) (h : (select q).focus? slot = some f) : f.Shows := by
  obtain ⟨body, hb⟩ := exists_body? whole
  cases slot <;> cases h <;> simp only [reaches, beq_iff_eq, bne_iff_ne, Bool.and_eq_true] at hr
  case withClause.refl =>
    exact fun _ => shown_select (fun _ => hb) fun c c' =>
      swapIn_part?.append_right.append_right.append_right.append_right
  case sortClause.refl =>
    exact fun _ hi => shown_select (fun _ => hb) fun c c' =>
      (swapIn_clause_all? hi).append_left.append_right.append_right
  case limitCount.refl =>
    exact fun _ => shown_select (fun _ => hb) fun c c' =>
      swapIn_clause_part?.append_left.append_right
  case limitOffset.refl =>
    exact fun _ => shown_select (fun _ => hb) fun c c' => swapIn_clause_part?.append_left
  case whereClause.refl =>
    exact fun _ => shown_select (fun _ => body?_of_op_none hr) fun c c' =>
      .body swapIn_clause_part?.append_left.append_right.append_right
  case havingClause.refl =>
    exact fun _ => shown_select (fun _ => body?_of_op_none hr) fun c c' =>
      .body swapIn_clause_part?.append_left
  case targetList.refl =>
    exact fun i hi => shown_select (fun _ => body?_of_op_none hr) fun c c' =>
      .body (swapIn_all? hi).append_left.append_right.append_right.append_right.append_right
  case fromClause.refl =>
    exact fun i hi => shown_select (fun _ => body?_of_op_none hr) fun c c' =>
      .body (swapIn_clause_all? hi).append_left.append_right.append_right.append_right
  case groupClause.refl =>
    exact fun i hi => shown_select (fun _ => body?_of_op_none hr) fun c c' =>
      .body (swapIn_clause_all? hi).append_left.append_right
  case distinctClause.refl =>
    refine fun i hi => shown_select (fun _ => body?_of_op_none hr.1) fun c c' => .body ?_
    simp only [all?_set hi, hr.2, selectWord]
    exact .append_right (.append_right (.append_right (.append_right (.append_right
      (.head (.cons (.parens (swap_all hi))))))))
  case larg.refl =>
    obtain ⟨_, r, right⟩ := exists_arms whole hr
    exact fun _ => shown_select (fun _ => body?_of_arms hr rfl right) fun c c' =>
      .body (.head (swap_head .arm))
  case rarg.refl =>
    obtain ⟨⟨l, left⟩, _⟩ := exists_arms whole hr
    exact fun _ => shown_select (fun _ => body?_of_arms hr left rfl) fun c c' =>
      .body (.cons (.cons (.head (swap_head .arm))))

theorem shows_operator {o : Operator Node} (whole : (operator o).wellFormed)
    (hr : (operator o).reaches slot) (h : (operator o).focus? slot = some f) : f.Shows := by
  obtain ⟨kind, name, l, r⟩ := o
  cases slot <;> cases h
  case lexpr.refl =>
    intro hc
    cases l
    case none => cases hc
    cases kind <;> cases r
    all_goals first | contradiction | exact fun c c' => ⟨_, _, rfl, rfl, swap_head _⟩
  case rexpr.refl =>
    intro hc
    cases kind
    case op =>
      cases l
      case none => exact fun c c' => ⟨_, _, rfl, rfl, .cons (swap_head .operand)⟩
      case some => exact fun c c' => ⟨_, _, rfl, rfl, .cons (.cons (swap_head .operand))⟩
    case not => exact fun c c' => ⟨_, _, rfl, rfl, .cons (swap_head (.below .not))⟩
    all_goals
      cases l
      case none => cases whole
    case any | all => exact fun c c' => ⟨_, _, rfl, rfl, .append_left (.parens (swap_head .plain))⟩
    all_goals exact fun c c' => ⟨_, _, rfl, rfl, .cons (.cons (swap_head _))⟩

theorem shows_sublink {q : Sublink Node} (whole : (sublink q).wellFormed)
    (hr : (sublink q).reaches slot) (h : (sublink q).focus? slot = some f) : f.Shows := by
  obtain ⟨kind, op, test, query⟩ := q
  cases slot <;> cases h
  case testexpr.refl =>
    intro hc
    cases test
    case none => cases hc
    cases kind
    case any | all => exact fun c c' => ⟨_, _, rfl, rfl, swap_head .operand⟩
    all_goals cases hr
  case subselect.refl =>
    cases kind
    case «exists» | array => exact fun c c' => ⟨_, _, rfl, rfl, .cons (.parens (swap_head .plain))⟩
    case expr => exact fun c c' => ⟨_, _, rfl, rfl, .parens (swap_head .plain)⟩
    all_goals
      cases test
      case none => cases whole
      case some => exact fun c c' => ⟨_, _, rfl, rfl, .append_left (.parens (swap_head .plain))⟩

theorem shows_call {q : Call Node} (hr : (call q).reaches slot)
    (h : (call q).focus? slot = some f) : f.Shows := by
  obtain ⟨name, args, order, filter, withinGroup, star, distinct⟩ := q
  cases slot <;> cases h
  case args.refl =>
    intro i hi c c'
    cases star
    case true => cases hr
    case false => exact ⟨_, _, rfl, rfl, .append_right (.cons (.callOrder (swap_all hi)))⟩
  case aggOrder.refl =>
    refine fun i hi c c' => ⟨_, _, rfl, rfl, ?_⟩
    simp only [Layout.call, callOrder, all?_set hi]
    cases withinGroup
    case false => exact .append_right (.append_left (.append_right (.append_left (swap_all hi))))
    case true => exact .append_right (.append_left (.append_right (.cons (swap_all hi))))
  case aggFilter.refl =>
    exact fun _ c c' => ⟨_, _, rfl, rfl, .append_left (.cons (swap_head .plain))⟩

theorem shows_focus? (whole : n.wellFormed) (hr : n.reaches slot) (h : n.focus? slot = some f) :
    f.Shows := by
  cases n
  case select q => exact shows_select whole hr h
  case operator o => exact shows_operator whole hr h
  case call q => exact shows_call hr h
  case sublink q => exact shows_sublink whole hr h
  all_goals cases slot <;> cases h
  case update.relation.refl =>
    exact fun c c' => ⟨_, _, rfl, rfl,
      SwapIn.separated (.append_right (.append_right (.cons (.head (swap_head .plain)))))⟩
  case update.targetList.refl =>
    exact fun i hi c c' => ⟨_, _, rfl, rfl, SwapIn.separated (.append_right (.append_right
      (.cons (.cons (.cons (.head (swapIn_map .assignment hi).separated))))))⟩
  case update.fromClause.refl =>
    exact fun i hi c c' => ⟨_, _, rfl, rfl,
      (swapIn_clause_all? hi).append_left.append_right.separated⟩
  case update.whereClause.refl =>
    exact fun _ c c' => ⟨_, _, rfl, rfl, swapIn_clause_part?.append_left.separated⟩
  case delete.relation.refl =>
    exact fun c c' => ⟨_, _, rfl, rfl,
      SwapIn.separated (.append_right (.head (.cons (swap_head .plain))))⟩
  case delete.whereClause.refl =>
    exact fun _ c c' => ⟨_, _, rfl, rfl, swapIn_clause_part?.append_left.separated⟩
  case insert.relation.refl =>
    exact fun c c' => ⟨_, _, rfl, rfl, .append_right (.append_right (.cons (swap_head .plain)))⟩
  case insert.cols.refl =>
    refine fun i hi c c' => ⟨_, _, rfl, rfl, ?_⟩
    simp only [Layout.insert, all?_set hi]
    exact .append_right (.append_left (.cons (.parens (swap_all hi))))
  case insert.selectStmt.refl =>
    exact fun _ c c' => ⟨_, _, rfl, rfl, .append_left (.cons (swap_head .plain))⟩
  case derived.subquery.refl =>
    exact fun c c' => ⟨_, _, rfl, rfl, .append_right (.cons (.parens (swap_head .plain)))⟩
  case join.larg.refl => exact fun c c' => ⟨_, _, rfl, rfl, swap_head .plain⟩
  case join.rarg.refl =>
    exact fun c c' => ⟨_, _, rfl, rfl, .append_right (.cons (.cons (swap_head .joined)))⟩
  case join.quals.refl =>
    exact fun _ c c' => ⟨_, _, rfl, rfl, .append_left (.cons (swap_head .plain))⟩
  case cte.ctequery.refl => exact fun c c' => ⟨_, _, rfl, rfl, .cons (.parens (swap_head .plain))⟩
  case target.val.refl t =>
    obtain ⟨name, val⟩ := t
    cases name <;> exact fun _ c c' => ⟨_, _, rfl, rfl, swap_head .plain⟩
  case nullTest.arg.refl => exact fun c c' => ⟨_, _, rfl, rfl, swap_head .operand⟩
  case sort.node.refl => exact fun c c' => ⟨_, _, rfl, rfl, swap_head .plain⟩
  case with.ctes.refl => exact fun i hi c c' => ⟨_, _, rfl, rfl, .cons (swap_all hi)⟩
  case row.args.refl => exact fun i hi c c' => ⟨_, _, rfl, rfl, .parens (swap_all hi)⟩

theorem each_of_focusStep? {P : (Node → Node) → Prop} (h : n.focusStep? s = some (c, put))
    (hf : n.focus? s.slot = some f) (he : f.Each P) : P put := by
  unfold focusStep? at h
  rw [hf] at h
  split at h
  case h_1 e _ =>
    cases e
    cases h
    exact he
  case h_2 e _ =>
    cases e
    cases h
    exact he rfl
  case h_3 e _ =>
    cases e
    have ⟨_, hm, h⟩ := Option.map_eq_some_iff.mp h
    cases h
    exact he _ (List.getElem?_eq_some_iff.mp hm).1
  case h_4 => cases h

-- Neither how a node is written nor whether it is enclosed depends on a child in its place.
theorem each_encloses (h : n.focus? slot = some f) : f.Each fun put => ∀ c c' (m : Manner),
    m.special (put c) = m.special n ∧ m.encloses (put c) = m.encloses (put c') := by
  cases n <;> cases slot <;> cases h <;> dsimp only [Focus.Each] <;> intros <;> rename_i m
  case select.sortClause.refl q _ _ _ _ =>
    have isEmpty_set (i c) : (q.sortClause.set i c).isEmpty = q.sortClause.isEmpty := by
      cases q.sortClause <;> cases i <;> rfl
    cases m
    case arm =>
      simp [Manner.special, Manner.encloses, Render.needsParensAsArm, Select.isSetOperation,
        isEmpty_set]
    all_goals exact ⟨rfl, rfl⟩
  case row.args.refl =>
    cases m
    case range => simp [Manner.special, Manner.encloses]
    all_goals exact ⟨rfl, rfl⟩
  all_goals cases m <;> exact ⟨rfl, rfl⟩

theorem swap_bounds (h : (row ⟨[low, high]⟩).focusStep? s = some (c, put)) (c₁ c₂ : Node) :
    ∃ l l', Manner.range.layout? (put c₁) = some l ∧ Manner.range.layout? (put c₂) = some l' ∧
      Swap c₁ c₂ l l' := by
  obtain ⟨slot, index⟩ := s
  cases slot <;> cases index <;> try cases h
  case args.some i =>
    have ⟨_, _, e⟩ := Option.map_eq_some_iff.mp h
    cases e
    match i with
    | 0 => exact ⟨_, _, rfl, rfl, swap_head .operand⟩
    | 1 => exact ⟨_, _, rfl, rfl, .cons (.cons (swap_head .operand))⟩

theorem swap_assignment {t : Target Node} (h : (target t).focusStep? s = some (c, put))
    (hm : (Manner.assignment.layout? (target t)).isSome) (c₁ c₂ : Node) :
    ∃ l l', Manner.assignment.layout? (put c₁) = some l ∧
      Manner.assignment.layout? (put c₂) = some l' ∧ Swap c₁ c₂ l l' := by
  obtain ⟨slot, index⟩ := s
  obtain ⟨name, val⟩ := t
  cases slot <;> cases index <;> cases val <;> cases h
  cases name
  case none => cases hm
  case some => exact ⟨_, _, rfl, rfl, .cons (swap_head .plain)⟩

-- In every manner the text of a node shows the child that stands in the place.
theorem swap_of_focusStep? (whole : n.wellFormed) (hr : n.reaches s.slot)
    (h : n.focusStep? s = some (c, put)) (hm : (m.layout? n).isSome) (c₁ c₂ : Node) :
    ∃ l l', m.layout? (put c₁) = some l ∧ m.layout? (put c₂) = some l' ∧ Swap c₁ c₂ l l' := by
  have ⟨f, hf⟩ : ∃ f, n.focus? s.slot = some f := by
    cases hf : n.focus? s.slot
    case none => simp [focusStep?, hf] at h
    case some f => exact ⟨f, rfl⟩
  have ⟨l, l', hl, hl', swap⟩ := each_of_focusStep? h hf (shows_focus? whole hr hf) c₁ c₂
  have alike := each_of_focusStep? h hf (each_encloses hf)
  cases special : m.special n
  case false =>
    have plain c := Manner.layout?_of_not_special (special ▸ (alike c c m).1)
    refine ⟨_, _, by rw [plain, hl, Option.map_some], by rw [plain, hl', Option.map_some], ?_⟩
    rw [(alike c₁ c₂ m).2]
    exact swap.parensIf
  case true =>
    unfold Manner.special at special
    split at special
    case h_1 r =>
      obtain ⟨args⟩ := r
      obtain ⟨low, high, rfl⟩ := List.length_eq_two.mp (beq_iff_eq.mp special)
      exact swap_bounds h c₁ c₂
    case h_2 => exact swap_assignment h hm c₁ c₂
    case h_3 => cases special

end Node

-- What stands around one of several statements is the same for every statement in its place.
theorem exists_sql_of_set {S : List Node} (h : ∀ n ∈ S, n.HasText) (hi : i < S.length) :
    ∃ pre post, ∀ n : Node, n.HasText →
      Renderer.sql (S.set i n) = .ok (pre ++ Manner.plain.text n ++ post) := by
  have ⟨pre, post, hs⟩ := Layout.exists_content_separated "; "
    ((S.take i).map fun n => [.part .plain n]) ((S.drop (i + 1)).map fun n => [.part .plain n])
  refine ⟨pre, post, fun n hn => ?_⟩
  have texts : ∀ n' ∈ S.set i n, n'.HasText := fun n' hn' =>
    (List.mem_or_eq_of_mem_set hn').elim (h n') fun e => e ▸ hn
  have hs := hs [.part .plain n]
  simp only [Layout.content_separated, List.map_append, List.map_map, List.map_cons,
    Function.comp_def, Layout.content_cons, Segment.content_part, Layout.content_nil,
    String.append_empty] at hs
  rw [Node.sql_of_hasText texts, ← hs]
  simp [List.set_eq_take_append_cons_drop, hi]

end SqlLens
