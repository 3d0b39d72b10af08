import SqlLens.Proofs.Render.Complete
import SqlLens.Proofs.Sql.Legible
import SqlLens.Proofs.Sql.Regular

namespace SqlLens.Sql

open SqlLens.Sql.Lexer

variable {place : Place} {part : Part} {text : String} {ts : List Token} {k : Nat}

theorem Word.Rendered.spelled {w : Word} (hw : w.Rendered) : w.Spelled := by
  obtain ⟨name, rfl⟩ := hw
  exact spelled_ofName name

theorem Word.Rendered.text_eq {w : Word} (hw : w.Rendered) :
    w.text = Render.quoteIdent w.ident.folded := by
  obtain ⟨name, rfl⟩ := hw
  rw [folded_ofName]
  rfl

theorem Naming.Rendered.spelled {a : Naming} (ha : a.Rendered) : a.Spelled :=
  ⟨ha.name.spelled, by simp [ha.columns], .inr ha.bare⟩

-- What is legible is a spelling of its part: the rules only leave less room.
theorem Legible.spelled (h : Legible place part text ts k) : Spelled part text ts k := by
  induction h
  case deepen hk hi => exact hi.deepen hk
  case loosen hg hh hi => exact hi.loosen hg hh
  case kept hs _ _ => exact hs
  case bare hi => exact hi
  case source hi => exact .source hi
  case body hi => exact .body hi
  case enclosedSide hi => exact .nested hi
  case enclosedArm hi => exact .group hi
  case enclosedJoin hj plain hk hi => exact .enclosed (o := none) hi hj plain hk (by simp)
  case column hw free _ => exact .path (fun w h => (hw w h).spelled) free
  case const hc => exact .const hc
  case parameter hn => exact .parameter hn
  case sign ho _ hg hi => exact .sign ho hi hg
  case negation hg plain hi => exact .negation hi hg plain
  case dyadic ho _ _ hs _ hg hl hr => exact .dyadic ho hl hs hr hg
  case isNull negated _ hh hi => exact .isNull negated hi hh
  case tuple several _ hi => exact .tuple several hi
  case among negated _ hh filled _ plain hi his => exact .among negated hi hh filled his plain
  case range negated _ hh _ hlg hlh _ hug hi hl hu =>
    exact .range negated hi hh hl hlg hlh hu hug
  case quantified all ho _ hh _ _ hi hr => exact .quantified all ho hi hh hr
  case subquery opens hi => exact .subquery hi opens
  case existence opens hi => exact .existence hi opens
  case nonexistence opens hi => exact .nonexistence hi opens
  case amongRows hh _ opens hi hq => exact .amongRows false hi hh hq opens
  case quantifiedRows all ho _ _ hh _ opens hi hq => exact .quantifiedRows all ho hi hh hq opens
  case call hw callable _ none _ leads _ _ _ bare _ args order within filter =>
    exact .call hw callable args leads order within filter (by simp [none]) (by simp [none]) bare
  case starCall c k hw callable _ none starred _ _ _ _ order within filter =>
    have args : Spelled (.argument (.star [])) "*" [.symbol "*"] k :=
      .deepen .starArgument (Nat.zero_le k)
    exact .call hw callable (by simpa [starred] using args) (by simp [starred]; rfl) order within
      filter (by simp [none]) (by simp [none]) (by simp [starred])
  case argument plain hi => exact .argument hi plain
  case order none hi => exact .order (by simpa [Order.entries, none] using hi) (by simp [none])
  case item plain hi => exact .item hi plain
  case aliased hw _ plain hi => exact .aliased hw.spelled hi plain
  case star => exact .star
  case table hw _ plain none naming =>
    exact .relation (fun w h => (hw w h).spelled) plain (by simp [none]) (by simp [none])
      fun a h => (naming a h).spelled
  case derived lateral _ naming hi =>
    exact .derived lateral hi fun a h => (naming a h).spelled
  case join _ _ _ _ columns _ _ straight untied hl hr on =>
    have columns (blank : Bool) (ws : List Word) (e : _ = Tie.columns blank ws) :
        ws ≠ [] ∧ ∀ w ∈ ws, w.Spelled :=
      (columns blank ws e).2.imp_right fun hw w h => (hw w h).spelled
    exact .join hl hr on columns straight untied
  case selection unclosed _ filled _ begins stars _ _ _ plain _ distinct items from_ cond groups
      having =>
    exact .selection unclosed distinct filled items begins stars from_ cond groups plain having
  case setOperation hop plain _ _ hl hr =>
    refine .setOperation hop ?_ hl hr
    obtain rfl | rfl := plain <;> rfl
  case cte hc columns _ hi => exact .cte false hc.spelled (fun w h => (columns w h).spelled) hi
  case query named recursive _ _ _ _ _ unlocked ctes body order limit offset =>
    exact .query ctes named recursive body order limit offset (by simp [unlocked])

section Texts

variable {n : Node} {l : Layout} {m : Manner}

theorem Part.proper_nodes (part : Part) : ∀ n ∈ part.nodes, n.Proper := by
  cases part
  case argument i => exact proper_argumentNodes [i]
  all_goals simp [nodes, Expr.proper_toNode, Item.proper_toNode, OrderItem.proper_toNode,
    Source.proper_toNode, Cte.proper_toNode, Body.proper_toNode, Query.proper_toNode]

theorem text_of_manner (hn : n.Proper) (hl : m.layout? n = some l) : m.text n = l.content := by
  have ⟨l', e, each⟩ := Manner.hasText_iff.mp (hn.complete.hasText (m := m) (by simp [hl]))
  cases hl.symm.trans e
  exact Manner.text_eq_content hl each

theorem text_of_layout (hn : n.Proper) (hl : n.layout? = some l) :
    Manner.plain.text n = l.content := by
  apply text_of_manner hn
  rw [Manner.layout?_of_not_special rfl, hl]
  rfl

-- The renderer encloses what needs to be enclosed.
theorem Place.encloses_manner (place : Place) (n : Node) :
    place.manner.encloses n = place.encloses n := by
  cases place
  case side kind => cases kind <;> cases n <;> rfl
  all_goals cases n <;> rfl

theorem Place.text_eq (hn : n.Proper) : place.manner.text n =
    Render.parensIf (place.encloses n) (Manner.plain.text n) := by
  rw [← place.encloses_manner]
  apply Render.text_eq_parensIf
  case h => exact hn.complete.plain
  all_goals
    cases place
    case side kind => cases kind <;> nofun
    all_goals nofun

theorem Part.text_eq (hn : part.nodes = [n]) (hl : n.layout? = some l)
    (content : l.content.toList = text.toList) :
    part.nodes.map Place.whole.manner.text = [text] := by
  have layout := text_of_layout (part.proper_nodes n (by simp [hn])) hl
  rw [hn]
  exact List.singleton_inj.mpr (layout.trans (String.toList_inj.mp content))

-- What is kept as text is written as that text.
theorem Part.text_kept (hn : part.nodes = [n]) (hk : keptText? n = some text) :
    part.nodes.map Place.whole.manner.text = [text] := by
  have proper : n.Proper := part.proper_nodes n (by simp [hn])
  unfold keptText? at hk
  split at hk
  case h_1 o => exact Part.text_eq hn (by rw [Node.layout?, hk]; rfl) (by simp)
  case h_2 o =>
    have inner : (Node.other o).Proper := proper.child (by simp [Node.offspring_eq])
    have written := text_of_layout (l := [.text text]) inner (by rw [Node.layout?, hk]; rfl)
    exact Part.text_eq hn rfl (by simp [written])
  case h_3 => cases hk

-- The texts of the nodes of a list, one for each item.
theorem map_text {α : Type} {f : List α → List Node} {p : α → Part} {xs : List (Entry α)}
    (nil : f [] = []) (cons : ∀ a as, f (a :: as) = (p a).nodes ++ f as)
    (each : ∀ x ∈ xs, (p x.tree).nodes.map Manner.plain.text = [x.text]) :
    (f (xs.map (·.tree))).map Manner.plain.text = xs.map (·.text) := by
  induction xs
  case nil => simp [nil]
  case cons x xs hi =>
    have ⟨first, others⟩ := List.forall_mem_cons.mp each
    simp [cons, first, hi others]

theorem map_text_exprs {xs : List (Entry Expr)}
    (each : ∀ x ∈ xs, (Part.expr x.tree 1 0).nodes.map Manner.plain.text = [x.text]) :
    (exprNodes (xs.map (·.tree))).map Manner.plain.text = xs.map (·.text) :=
  map_text (p := fun e => .expr e 1 0) (by rw [exprNodes]) (fun _ _ => by rw [exprNodes]; rfl) each

theorem map_text_orders {xs : List (Entry OrderItem)}
    (each : ∀ x ∈ xs, (Part.order x.tree).nodes.map Manner.plain.text = [x.text]) :
    (orderNodes (xs.map (·.tree))).map Manner.plain.text = xs.map (·.text) :=
  map_text (p := Part.order) (by rw [orderNodes]) (fun _ _ => by rw [orderNodes]; rfl) each

theorem map_text_option {o : Option (Entry Expr)}
    (each : ∀ x ∈ o, (Part.expr x.tree 1 0).nodes.map Manner.plain.text = [x.text]) :
    (exprNode? (o.map (·.tree))).map Manner.plain.text = o.map (·.text) := by
  cases o
  case none => rw [Option.map_none, exprNode?, Option.map_none, Option.map_none]
  case some x =>
    have text : Manner.plain.text x.tree.toNode = _ := List.singleton_inj.mp (each x rfl)
    rw [Option.map_some, exprNode?, Option.map_some, Option.map_some, text]

theorem Spells.text_ne (h : Spells text ts) (hts : ts ≠ []) : text ≠ "" := by
  rintro rfl
  obtain ⟨ls, last, cut, rfl, _⟩ := h.exists_lexemes
  obtain rfl : ls = [] := by
    have := congrArg List.length (Except.ok.inj cut)
    exact List.eq_nil_of_length_eq_zero (by simpa using this.symm)
  contradiction

theorem commas_ne (ht : text ≠ "") (texts : List String) : commas (text :: texts) ≠ "" := by
  cases texts
  case nil => simpa [commas] using ht
  case cons =>
    rw [commas, String.intercalate_cons_of_ne_nil (by simp)]
    simp [ht]

-- A column is written as the names of it are.
theorem layout_column {w : Word} {ws : List Word} (hw : ∀ w' ∈ w :: ws, w'.Rendered)
    (star : ∀ w' ∈ w :: ws, w'.ident.folded ≠ "*") :
    Node.layout? (.column ⟨(w.ident :: ws.map Word.ident).map Ident.folded⟩) = some
      [.text (".".intercalate ((w :: ws).map Word.text))] := by
  have texts : ((w :: ws).map fun w => Render.columnField w.ident.folded) =
      (w :: ws).map Word.text := by
    refine List.map_congr_left fun w' h => ?_
    rw [(hw w' h).text_eq, Render.columnField, if_neg (by simpa using star w' h)]
  rw [← texts]
  simp [Node.layout?, Function.comp_def]

theorem toNode_compared {r : Expr} (all : Bool) (e : Expr) (op : String)
    (plain : ∀ q, r ≠ .subquery q) : (compared all e op r).toNode =
      .operator ⟨if all then .all else .any, op, some e.toNode, some r.toNode⟩ := by
  cases all
  case false =>
    rw [compared, if_neg nofun, Expr.toNode]
    · rfl
    · exact plain
  case true =>
    rw [compared, if_pos rfl, Expr.toNode]
    · rfl
    · exact plain

theorem toNode_compared_rows (all : Bool) (e : Expr) (op : String) (q : Query) :
    (compared all e op (.subquery q)).toNode =
      .sublink ⟨if all then .all else .any, some op, some e.toNode, q.toNode⟩ := by
  cases all <;> simp [compared, Expr.toNode]

-- How the operands of an operator are put together.
theorem Infix.layout {kind : OperatorKind} {name op : String} {mk : Expr → Expr → Expr}
    {ots : List Token} {s : Nat} (ho : Infix mk op ots s)
    (same : ∀ l r, (mk l r).toNode = .operator ⟨kind, name, some l.toNode, some r.toNode⟩)
    (l r : Node) : Layout.operator? ⟨kind, name, some l, some r⟩ = some
      [.part (sideManner kind) l, .text (" " ++ op ++ " "), .part (sideManner kind) r] := by
  have same := same (.literal .null) (.literal .null)
  cases ho
  case symbol ho _ =>
    rw [Expr.toNode, operatorNode_symbol ho] at same
    cases same
    rfl
  case zone =>
    rw [Expr.toNode] at same
    cases same
  case like =>
    simp only [Expr.toNode] at same
    cases same
    rfl
  all_goals
    simp only [Expr.toNode, operatorNode] at same
    cases same
    rfl

section Tests

variable {e low high r : Expr} {q : Query} {ltext utext rtext qtext op : String} {g h : Nat}

theorem text_among {xs : List (Entry Expr)} (negated : Bool)
    (left : Manner.operand.text e.toNode = text)
    (items : (exprNodes (xs.map (·.tree))).map Manner.plain.text = xs.map (·.text)) :
    (Part.expr (.inList e (xs.map (·.tree)) negated) g h).nodes.map Manner.plain.text =
      [text ++ " " ++ notWord negated ++ "IN (" ++ commas (xs.map (·.text)) ++ ")"] := by
  have row : Manner.listed.text (.row ⟨exprNodes (xs.map (·.tree))⟩) = _ :=
    text_of_manner (l := Layout.parens (Layout.all (exprNodes (xs.map (·.tree)))))
      (proper_row (proper_exprNodes _)) rfl
  refine Part.text_eq (l := [.part .operand e.toNode,
    .text (if negated then " NOT IN " else " IN "),
    .part .listed (.row ⟨exprNodes (xs.map (·.tree))⟩)]) rfl ?_ ?_
  · rw [Expr.toNode]
    cases negated <;> rfl
  · cases negated <;> simp [left, row, items, Render.parens, Render.joined, commas, notWord]

theorem text_between (negated : Bool) (left : Manner.operand.text e.toNode = text)
    (lower : Manner.operand.text low.toNode = ltext)
    (upper : Manner.operand.text high.toNode = utext) :
    (Part.expr (.between e negated low high) g h).nodes.map Manner.plain.text =
      [text ++ " " ++ notWord negated ++ "BETWEEN " ++ ltext ++ " AND " ++ utext] := by
  have row : Manner.range.text (.row ⟨[low.toNode, high.toNode]⟩) = _ :=
    text_of_manner (proper_row (by simp [low.proper_toNode, high.proper_toNode])) rfl
  refine Part.text_eq (l := [.part .operand e.toNode,
    .text (if negated then " NOT BETWEEN " else " BETWEEN "),
    .part .range (.row ⟨[low.toNode, high.toNode]⟩)]) rfl ?_ ?_
  · rw [Expr.toNode]
    cases negated <;> rfl
  · cases negated <;> simp [left, row, lower, upper, notWord]

theorem text_quantified (all : Bool) (plain : ∀ q, r ≠ .subquery q)
    (left : Manner.operand.text e.toNode = text) (right : Manner.plain.text r.toNode = rtext) :
    (Part.expr (compared all e op r) g h).nodes.map Manner.plain.text =
      [text ++ " " ++ op ++ " " ++ quantifierWord all ++ "(" ++ rtext ++ ")"] := by
  refine Part.text_eq (l := [.part .operand e.toNode,
    .text (" " ++ op ++ if all then " ALL" else " ANY")] ++ Layout.parens [.part .plain r.toNode])
    rfl ?_ ?_
  · rw [toNode_compared all e op plain]
    cases all <;> rfl
  · cases all <;> simp [left, right, Render.parens, quantifierWord]

theorem text_quantifiedRows (all : Bool) (unequal : op = "=" → all)
    (left : Manner.operand.text e.toNode = text) (query : Manner.plain.text q.toNode = qtext) :
    (Part.expr (compared all e op (.subquery q)) g h).nodes.map Manner.plain.text =
      [text ++ " " ++ op ++ " " ++ quantifierWord all ++ " (" ++ qtext ++ ")"] := by
  refine Part.text_eq (l := [.part .operand e.toNode,
    .text (" " ++ op ++ if all then " ALL " else " ANY ")] ++ Layout.parens [.part .plain q.toNode])
    rfl ?_ ?_
  · rw [toNode_compared_rows]
    cases all
    case false =>
      have apart : (op == "=") = false := beq_eq_false_iff_ne.mpr fun e => Bool.false_ne_true (unequal e)
      simp only [Node.layout?, Layout.sublink?, apart, Bool.false_eq_true, if_false]
    case true => rfl
  · cases all <;> simp [left, query, Render.parens, quantifierWord]

end Tests

section Calls

variable {c : Invocation}

theorem Invocation.toNode_tree (across : c.across = none) (apart : c.order = [] ∨ c.within = []) :
    c.tree.toNode = .call {
      name := nameText [c.name.ident]
      args := argumentNodes (c.args.map (·.tree))
      aggOrder := orderNodes (c.order.map (·.tree)) ++ orderNodes (c.within.map (·.tree))
      aggFilter := exprNode? (c.filter.map (·.tree))
      withinGroup := !c.within.isEmpty
      star := (c.args.map (·.tree)).any Item.isStar
      distinct := c.distinct } := by
  rw [Invocation.tree, Invocation.arguments, Function.toNode]
  have fits : Function.fits c.tree c.arguments := by
    simp [Function.fits, Invocation.tree, Invocation.arguments, across]
    cases c.distinct <;> simpa using apart
  simp only [Invocation.tree, Invocation.arguments] at fits
  simp only [fits, if_true]
  cases c.distinct <;> simp

-- The order of a call, among its arguments or behind them.
theorem content_callOrder {args : Layout} {order within : List Node}
    {corder cwithin : List (Entry OrderItem)} (apart : corder = [] ∨ cwithin = [])
    (filled : corder ≠ [] → args.content ≠ "")
    (horder : order.map Manner.plain.text = corder.map (·.text))
    (hwithin : within.map Manner.plain.text = cwithin.map (·.text)) :
    (Layout.callOrder (!cwithin.isEmpty) args (Layout.all? (order ++ within))).content =
      clauseText "ORDER BY" (listText? corder) ++ ")" ++
        (if cwithin.isEmpty then ""
          else " WITHIN GROUP (ORDER BY " ++ commas (cwithin.map (·.text)) ++ ")") := by
  apply String.toList_inj.mp
  obtain rfl | rfl := apart
  · obtain rfl : order = [] := by simpa using horder
    cases cwithin
    case nil =>
      obtain rfl : within = [] := by simpa using hwithin
      simp [Layout.callOrder, Layout.all?, listText?, clauseText]
    case cons x xs =>
      obtain _ | ⟨n, ns⟩ := within
      case nil => cases hwithin
      have texts : Render.joined ((n :: ns).map Manner.plain.text) = commas _ :=
        congrArg commas hwithin
      simp [Layout.callOrder, Layout.all?, listText?, clauseText, texts, -List.map_cons]
  · obtain rfl : within = [] := by simpa using hwithin
    cases corder
    case nil =>
      obtain rfl : order = [] := by simpa using horder
      simp [Layout.callOrder, Layout.all?, listText?, clauseText]
    case cons x xs =>
      obtain _ | ⟨n, ns⟩ := order
      case nil => cases horder
      have texts : Render.joined ((n :: ns).map Manner.plain.text) = commas _ :=
        congrArg commas horder
      simp [Layout.callOrder, Layout.all?, listText?, clauseText, texts, filled, -List.map_cons]

theorem Invocation.content_call {star : Bool} {args order within : List Node} {filter : Option Node}
    (across : c.across = none) (apart : c.order = [] ∨ c.within = [])
    (filled : c.order ≠ [] → commas (c.args.map (·.text)) ≠ "")
    (hargs : (if star then [.text "*"] else Layout.all args : Layout).content =
      commas (c.args.map (·.text)))
    (horder : order.map Manner.plain.text = c.order.map (·.text))
    (hwithin : within.map Manner.plain.text = c.within.map (·.text))
    (hfilter : filter.map Manner.plain.text = c.filter.map (·.text)) :
    (Layout.call ⟨c.name.text, args, order ++ within, filter, !c.within.isEmpty, star,
      c.distinct⟩).content.toList = c.text.toList := by
  have ordered := content_callOrder apart (by rwa [hargs]) horder hwithin
  obtain ⟨name, distinct, cargs, corder, cwithin, cfilter, cacross⟩ := c
  obtain rfl : cacross = none := across
  simp only [Layout.call, Layout.content_append, Layout.content_cons, ordered, hargs, text]
  cases filter <;> cases cfilter <;> simp_all

theorem Invocation.text_eq {g h : Nat} (named : c.name.ident.toText = c.name.text)
    (across : c.across = none) (apart : c.order = [] ∨ c.within = [])
    (filled : c.order ≠ [] → commas (c.args.map (·.text)) ≠ "")
    (args : (if (c.args.map (·.tree)).any Item.isStar then [.text "*"]
      else Layout.all (argumentNodes (c.args.map (·.tree))) : Layout).content =
        commas (c.args.map (·.text)))
    (order : ∀ x ∈ c.order, (Part.order x.tree).nodes.map Manner.plain.text = [x.text])
    (within : ∀ x ∈ c.within, (Part.order x.tree).nodes.map Manner.plain.text = [x.text])
    (filter : ∀ x ∈ c.filter, (Part.expr x.tree 1 0).nodes.map Manner.plain.text = [x.text]) :
    (Part.expr (.call c.tree) g h).nodes.map Manner.plain.text = [c.text] := by
  refine Part.text_eq (n := .call _) (l := Layout.call _)
    (by rw [Part.nodes, Expr.toNode, Invocation.toNode_tree across apart]) rfl ?_
  rw [nameText, List.map_singleton, named]
  exact Invocation.content_call across apart filled args (map_text_orders order)
    (map_text_orders within) (map_text_option filter)

end Calls

section Nodes

theorem Order.toNode_tree {o : Order} (unfilled : o.filling = none) :
    o.tree.toNode = .sort ⟨o.key.tree.toNode, match o.asc with
      | some true => .asc
      | some false => .desc
      | none => .default, o.nullsFirst⟩ := by
  obtain ⟨x, asc, nulls, filling⟩ := o
  obtain rfl : filling = none := unfilled
  simp only [Order.tree, OrderItem.toNode]
  obtain _ | _ | _ := asc <;> rfl

theorem Naming.Rendered.plain {o : Option Naming} (ho : ∀ a ∈ o, a.Rendered) :
    Alias.plain (o.map Naming.tree) ∧
      aliasName (o.map Naming.tree) = o.map (·.name.ident.folded) ∧
      namingText o = Render.aliasText (o.map (·.name.ident.folded)) := by
  cases o
  case none => exact ⟨rfl, rfl, rfl⟩
  case some a =>
    have ha := ho a rfl
    refine ⟨by simp [Alias.plain, Naming.tree, ha.columns], rfl, ?_⟩
    simp [namingText, Naming.text, ha.implicit, ha.columns, Render.aliasText, ha.name.text_eq]

theorem Relation.text_table {t : Relation} (hw : ∀ w ∈ t.name :: t.more, w.Rendered)
    (short : t.more.length ≤ 1) (none : t.args = none) (naming : ∀ a ∈ t.naming, a.Rendered) :
    ∃ table, t.tree.toNode = .table table ∧ Render.table table = t.text := by
  obtain ⟨plain, named, text⟩ := Naming.Rendered.plain naming
  obtain ⟨name, more, args, o⟩ := t
  obtain rfl : args = .none := none
  have ⟨(first : name.Rendered), others⟩ := List.forall_mem_cons.mp hw
  obtain _ | ⟨w, more⟩ := more
  · refine ⟨{ name := name.ident.folded, aliasName := o.map (·.name.ident.folded) }, ?_, ?_⟩
    · simp only [Relation.tree, Relation.argumentPieces]
      rw [Source.toNode]
      simp [plain, tableOfName?, named]
    · simp [Render.table, Relation.text, text, first.text_eq]
  · obtain rfl : more = [] := by simpa using short
    refine ⟨{ schema := some name.ident.folded, name := w.ident.folded,
              aliasName := o.map (·.name.ident.folded) }, ?_, ?_⟩
    · simp only [Relation.tree, Relation.argumentPieces]
      rw [Source.toNode]
      simp [plain, tableOfName?, named]
    · simp [Render.table, Relation.text, text, first.text_eq, (others w (.head _)).text_eq]

theorem Common.toNode_tree (c : Common) : c.tree.toNode =
    .cte ⟨c.name.ident.folded, c.columns.map (·.ident.folded), c.query.tree.toNode⟩ := by
  rw [Common.tree, Cte.toNode]
  simp [Cte.fits, Function.comp_def]

theorem texts_of_words {ws : List Word} (hw : ∀ w ∈ ws, w.Rendered) :
    (ws.map (·.ident.folded)).map Render.quoteIdent = ws.map Word.text := by
  rw [List.map_map]
  exact List.map_congr_left fun w h => (hw w h).text_eq.symm

theorem Common.text_eq {c : Common} (hc : c.name.Rendered) (columns : ∀ w ∈ c.columns, w.Rendered)
    (query : Manner.plain.text c.query.tree.toNode = c.query.text) :
    (Part.cte c.tree).nodes.map Manner.plain.text = [c.text false] := by
  refine Part.text_eq (by rw [Part.nodes, Common.toNode_tree]) rfl ?_
  simp [Layout.cte, Render.parens, query, Common.text, Render.quoteIdents, ← hc.text_eq,
    texts_of_words columns, commas, -List.map_map]

def Tie.names : Tie → List String
  | .columns _ ws => ws.map (·.ident.folded)
  | _ => []

theorem Tie.columns?_tree (tie : Tie) : tie.tree.columns? = some tie.names := by
  cases tie
  case columns blank ws =>
    have columns : usingColumns? (ws.map fun w => [w.ident]) = some (ws.map (·.ident.folded)) := by
      induction ws
      case nil => rfl
      case cons w ws hi => simp_all [usingColumns?]
    exact columns
  all_goals rfl

-- Both sides of a join, the word between them and what ties them.
theorem text_join {op : JoinOperator} {kind : JoinKind} {l r : Source} {tie : Tie}
    {ltext rtext : String} (fits : l.joinsFit)
    (columns : ∀ blank ws, tie = .columns blank ws → blank ∧ ws ≠ [] ∧ ∀ w ∈ ws, w.Rendered)
    (hk : JoinOperator.kind? op = some kind) (word : op.keyword = kind.keyword)
    (left : Manner.plain.text l.toNode = ltext) (right : Manner.joined.text r.toNode = rtext)
    (on : ∀ x, tie = .on x → Manner.plain.text x.tree.toNode = x.text) :
    (Part.source (.join l false op r tie.tree)).nodes.map Manner.plain.text =
      [ltext ++ " " ++ (if tie.isNatural then "NATURAL " else "") ++ op.keyword ++ " " ++ rtext ++
        tie.text] := by
  have node : (Source.join l false op r tie.tree).toNode =
      .join ⟨kind, tie.tree.isNatural, l.toNode, r.toNode, tie.names, tie.tree.quals?⟩ := by
    rw [Source.toNode, hk, tie.columns?_tree, Source.joinsFit, hk, tie.columns?_tree, fits]
    rfl
  refine Part.text_eq (by rw [Part.nodes, node]) rfl ?_
  obtain _ | _ | x | ⟨blank, ws⟩ := tie
  case none | natural =>
    simp [Layout.join, left, right, word, Tie.tree, JoinConstraint.isNatural,
      JoinConstraint.quals?, Tie.names, Tie.isNatural, Tie.text]
  case on =>
    simp [Layout.join, left, right, word, Tie.tree, JoinConstraint.isNatural,
      JoinConstraint.quals?, Tie.isNatural, Tie.text, on x rfl]
  case columns =>
    obtain ⟨rfl, filled, hw⟩ := columns blank ws rfl
    simp [Layout.join, left, right, word, Tie.tree, JoinConstraint.isNatural,
      JoinConstraint.quals?, Tie.names, Tie.isNatural, Tie.text, filled, Render.parens,
      Render.quoteIdents, texts_of_words hw, commas, -List.map_map]

def Selection.node (s : Selection) : SqlLens.Select Node where
  distinct := s.distinct.tree.isPresent
  distinctClause := s.distinct.tree.toNodes
  targetList := itemNodes (s.items.map (·.tree))
  fromClause := sourceNodes (s.from_.map (·.tree))
  whereClause := exprNode? (s.cond.map (·.tree))
  groupClause := exprNodes (s.groups.map (·.tree))
  havingClause := exprNode? (s.having.map (·.tree))

theorem Selection.toNode_tree (s : Selection) : s.tree.toNode = .select s.node := by
  rw [Selection.tree, Select.toNode]
  rfl

theorem Request.toNode_tree {q : Request} {core : SqlLens.Select Node} (unlocked : q.locks = [])
    (hn : q.body.tree.toNode = .select core) (plain : isBody (.select core)) :
    q.tree.toNode = .select { core with
      withClause := if q.ctes.isEmpty then none
        else some (.with ⟨q.recursive, cteNodes (q.ctes.map (·.tree))⟩)
      sortClause := orderNodes (q.order.map (·.tree))
      limitCount := exprNode? (q.limit.map (·.tree))
      limitOffset := exprNode? (q.offset.map (·.tree)) } := by
  obtain ⟨recursive, ctes, body, order, limit, offset, locks⟩ := q
  obtain rfl : locks = [] := unlocked
  simp only [isBody, Bool.and_eq_true, Option.isNone_iff_eq_none, List.isEmpty_iff] at plain
  obtain ⟨⟨⟨hw, hs⟩, hl⟩, ho⟩ := plain
  rw [Request.tree, Query.toNode]
  simp [Query.fits, Limits.fits, hn, Attached.queryNode, Attached.onto?, hw, hs, hl, ho,
    OrderBy.toNodes, Limits.count?, Limits.offset?]
  cases limit <;> cases offset <;> simp [Attached.hasLimit, exprNode?]

end Nodes

section Queries

theorem intercalate_blank (x : String) (xs : List String) :
    " ".intercalate (x :: xs) = x ++ String.join (xs.map (" " ++ ·)) := by
  induction xs generalizing x
  case nil => simp
  case cons y ys hi =>
    rw [String.intercalate_cons_of_ne_nil (by simp), hi]
    simp [String.append_assoc]

theorem join_clause (word : String) (o : Option String) :
    String.join ((Render.clause word o).map (" " ++ ·)) = clauseText word o := by
  cases o <;> simp [Render.clause, clauseText, String.append_assoc]

theorem joined?_text {α : Type} (xs : List (Entry α)) :
    Render.joined? (xs.map (·.text)) = listText? xs := by
  cases xs <;> rfl

theorem text_select {s : SqlLens.Select Node} {ls : List Layout} (hn : (Node.select s).Proper)
    (hb : Layout.body? s = some ls) : Manner.plain.text (.select s) = " ".intercalate
      ((Layout.part? s.withClause).toList.map Layout.content ++ ls.map Layout.content ++
        Render.clause "ORDER BY" (Render.joined? (s.sortClause.map Manner.plain.text)) ++
        Render.clause "LIMIT" (s.limitCount.map Manner.plain.text) ++
        Render.clause "OFFSET" (s.limitOffset.map Manner.plain.text)) := by
  rw [text_of_layout hn (by rw [Node.layout?, Layout.select?, hb]; rfl)]
  simp

theorem Distinction.text_eq {d : Distinction} (filled : ∀ xs, d = .on xs → xs ≠ [])
    (each : ∀ xs, d = .on xs → ∀ x ∈ xs,
      (Part.expr x.tree 1 0).nodes.map Manner.plain.text = [x.text]) :
    Render.selectWord d.tree.isPresent (Render.joined? (d.tree.toNodes.map Manner.plain.text)) =
      "SELECT" ++ d.text := by
  cases d
  case none | plain => rfl
  case on xs =>
    have texts := map_text_exprs (each xs rfl)
    simp only [Distinction.tree, Distinct.toNodes, texts, joined?_text]
    obtain ⟨x, xs, rfl⟩ := List.exists_cons_of_ne_nil (filled xs rfl)
    apply String.toList_inj.mp
    simp [Distinct.isPresent, Render.selectWord, Render.parens, listText?, Distinction.text_on]

theorem exists_body? {c : SqlLens.Select Node} (hn : (Node.select c).Proper) :
    ∃ l ls, Layout.body? c = some (l :: ls) := by
  have written : (Layout.select? c).isSome :=
    (Node.isSome_layout? (.select c)).trans hn.here.wellFormed
  rw [Layout.select?, Option.isSome_map] at written
  unfold Layout.body? at written ⊢
  split
  case isTrue =>
    cases hl : c.larg <;> cases hr : c.rarg <;> simp_all
  case isFalse => exact ⟨_, _, rfl⟩

theorem Selection.text_eq {s : Selection} (unclosed : ∀ xs, s.distinct = .on xs → xs ≠ [])
    (filled : s.items ≠ [])
    (distinct : ∀ xs, s.distinct = .on xs → ∀ x ∈ xs,
      (Part.expr x.tree 1 0).nodes.map Manner.plain.text = [x.text])
    (items : ∀ x ∈ s.items, (Part.item x.tree).nodes.map Manner.plain.text = [x.text])
    (from_ : ∀ x ∈ s.from_, (Part.source x.tree).nodes.map Manner.plain.text = [x.text])
    (cond : ∀ x ∈ s.cond, (Part.expr x.tree 1 0).nodes.map Manner.plain.text = [x.text])
    (groups : ∀ x ∈ s.groups, (Part.expr x.tree 1 0).nodes.map Manner.plain.text = [x.text])
    (having : ∀ x ∈ s.having, (Part.expr x.tree 1 0).nodes.map Manner.plain.text = [x.text]) :
    (Part.term (.select s.tree)).nodes.map Manner.plain.text = [s.text] := by
  have items := map_text (f := itemNodes) (p := Part.item) (by simp [itemNodes])
    (fun _ _ => by rw [itemNodes]; rfl) items
  have from_ := map_text (f := sourceNodes) (p := Part.source) (by simp [sourceNodes])
    (fun _ _ => by rw [sourceNodes]; rfl) from_
  have cond := map_text_option cond
  have groups := map_text_exprs groups
  have having := map_text_option having
  have head := Distinction.text_eq unclosed distinct
  have proper : (Node.select s.node).Proper := s.toNode_tree ▸ s.tree.proper_toNode
  have body := text_select proper (Layout.body?_of_op_none rfl)
  simp only [Selection.node, List.map_append, List.map_cons, List.map_nil,
    Layout.map_content_toList, Layout.content_clause, Layout.content_all?, Layout.content_part?,
    Layout.content_selectWord, head, items, from_, cond, groups, having, joined?_text] at body
  obtain ⟨x, xs, e⟩ := List.exists_cons_of_ne_nil filled
  rw [Part.nodes, Body.toNode, s.toNode_tree]
  refine List.singleton_inj.mpr (body.trans ?_)
  have filled : (listText? s.items).toList = [commas (s.items.map (·.text))] := by rw [e]; rfl
  have nothing (word : String) : clauseText word none = "" := rfl
  simp [intercalate_blank, Selection.text_def, filled, join_clause, Render.joined?, nothing,
    String.append_assoc]

theorem text_setOperation {op : SetOperator} {quantifier : Quantifier} {l r : Body}
    {ltext rtext : String} (hop : op ≠ .minus) (plain : quantifier = .none ∨ quantifier = .all)
    (left : Manner.arm.text l.toNode = ltext) (right : Manner.arm.text r.toNode = rtext) :
    (Part.body (.setOperation op quantifier l r)).nodes.map Manner.plain.text =
      [ltext ++ " " ++ op.keyword ++ quantifier.toText ++ " " ++ rtext] := by
  have written : op.toSetOp ≠ .none ∧ op.toSetOp.keyword = op.keyword := by
    cases op
    case minus => contradiction
    all_goals exact ⟨by rintro ⟨⟩, rfl⟩
  let s : SqlLens.Select Node :=
    { op := op.toSetOp, all := quantifier == .all, larg := some l.toNode, rarg := some r.toNode }
  have node : (Body.setOperation op quantifier l r).toNode = .select s := by
    rw [Body.toNode]
    obtain rfl | rfl := plain <;> rfl
  have body := Layout.body?_of_arms (q := s) written.1 rfl rfl
  refine Part.text_eq (by rw [Part.nodes, node]) (by rw [Node.layout?, Layout.select?, body]; rfl) ?_
  obtain rfl | rfl := plain <;> simp [s, left, right, written.2, Render.setWord, Quantifier.toText,
    Layout.part?, Layout.all?, Layout.clause]

-- The clauses around a body are written around its text.
theorem Request.text_eq {q : Request} {c : SqlLens.Select Node} (unlocked : q.locks = [])
    (hn : q.body.tree.toNode = .select c) (plain : isBody (.select c))
    (body : Manner.plain.text (.select c) = q.body.text)
    (ctes : (cteNodes (q.ctes.map (·.tree))).map Manner.plain.text = q.ctes.map (·.text))
    (order : (orderNodes (q.order.map (·.tree))).map Manner.plain.text = q.order.map (·.text))
    (limit : (exprNode? (q.limit.map (·.tree))).map Manner.plain.text = q.limit.map (·.text))
    (offset : (exprNode? (q.offset.map (·.tree))).map Manner.plain.text = q.offset.map (·.text)) :
    Manner.plain.text q.tree.toNode = q.text := by
  have properBody : (Node.select c).Proper := hn ▸ q.body.tree.proper_toNode
  obtain ⟨l, ls, hb⟩ := exists_body? properBody
  have proper := q.tree.proper_toNode
  rw [q.toNode_tree unlocked hn plain] at proper ⊢
  have inner := text_select properBody hb
  have whole := text_select proper hb
  simp only [isBody, Bool.and_eq_true, Option.isNone_iff_eq_none, List.isEmpty_iff] at plain
  obtain ⟨⟨⟨hw, hs⟩, hl⟩, ho⟩ := plain
  have nothing (word : String) : Render.clause word none = [] := rfl
  simp only [hw, hs, hl, ho, body, Layout.part?, Render.joined?, nothing, List.map_nil,
    Option.map_none, Option.toList_none, List.nil_append, List.append_nil, List.map_cons,
    intercalate_blank] at inner
  simp only [order, limit, offset, joined?_text] at whole
  rw [whole, Request.text]
  cases e : q.ctes.isEmpty
  case true =>
    simp [intercalate_blank, join_clause, unlocked, inner, Layout.part?, String.append_assoc]
  case false =>
    have properWith := proper_with q.recursive (proper_cteNodes (q.ctes.map (·.tree)))
    have heading : Manner.plain.text (.with ⟨q.recursive, cteNodes (q.ctes.map (·.tree))⟩) = _ :=
      text_of_layout properWith rfl
    simp only [Layout.content_cons, Layout.content_all, Segment.content_text, ctes] at heading
    simp [intercalate_blank, join_clause, unlocked, inner, Layout.part?, String.append_assoc,
      heading, Render.joined, commas]

end Queries

-- The text of what is legible is the text of its one node.
theorem Legible.text_eq (h : Legible place part text ts k) :
    part.nodes.map place.manner.text = [text] := by
  induction h
  case deepen hi | loosen hi => exact hi
  case kept hn hk => exact Part.text_kept hn hk
  case bare p part _ _ _ _ free hi =>
    rw [← hi]
    refine List.map_congr_left fun n hn => ?_
    rw [Place.text_eq (part.proper_nodes n hn), free n hn]
    rfl
  case enclosedSide kind e _ _ _ _ he hi =>
    have inner : Manner.plain.text e.toNode = _ := List.singleton_inj.mp hi
    refine List.singleton_inj.mpr ?_
    rw [Expr.toNode, Place.text_eq e.proper_toNode, he, inner]
    rfl
  case enclosedArm q _ _ _ _ he hi =>
    have inner : Manner.plain.text q.toNode = _ := List.singleton_inj.mp hi
    refine List.singleton_inj.mpr ?_
    rw [Body.toNode, Place.text_eq q.proper_toNode, he, inner]
    rfl
  case enclosedJoin s _ _ _ _ he _ _ _ hi =>
    have inner : Manner.plain.text s.toNode = _ := List.singleton_inj.mp hi
    refine List.singleton_inj.mpr ?_
    rw [Source.toNode, Place.text_eq s.proper_toNode, he, inner]
    simp [Render.parensIf, Render.parens, namingText]
  case column hw _ star =>
    exact Part.text_eq rfl (by rw [toNode_pathExpr, layout_column hw star]) (by simp)
  case const c _ => exact Part.text_eq rfl (by rw [Expr.toNode, toNode_constLiteral]; rfl) (by simp)
  case parameter => exact Part.text_eq rfl (by rw [Expr.toNode]; rfl) (by simp [Render.const])
  case sign op e _ _ _ _ _ ho _ _ hi =>
    have operand : Manner.operand.text _ = _ := List.singleton_inj.mp hi
    have known : op ≠ "NOT" := by
      rintro rfl
      revert ho
      decide
    exact Part.text_eq rfl (by simp [Expr.toNode, known]; rfl) (by simp [operand])
  case negation hi =>
    have operand : (Manner.below .not).text _ = _ := List.singleton_inj.mp hi
    exact Part.text_eq rfl (by rw [Expr.toNode]; rfl) (by simp [operand])
  case dyadic kind name mk op _ _ l _ _ _ _ _ r _ _ _ _ _ ho same _ _ _ _ hl hr =>
    have left : (sideManner kind).text _ = _ := List.singleton_inj.mp hl
    have right : (sideManner kind).text _ = _ := List.singleton_inj.mp hr
    exact Part.text_eq rfl (by rw [same]; exact ho.layout same _ _) (by simp [left, right])
  case isNull negated _ _ hi =>
    have operand : Manner.operand.text _ = _ := List.singleton_inj.mp hi
    exact Part.text_eq rfl (by rw [Expr.toNode]; rfl) (by cases negated <;> simp [operand, notWord])
  case tuple hi =>
    exact Part.text_eq rfl (by rw [Expr.toNode]; rfl)
      (by simp [map_text_exprs hi, Render.parens, Render.joined, commas])
  case among hi his =>
    exact text_among _ (List.singleton_inj.mp hi) (map_text_exprs his)
  case range hi hl hu =>
    exact text_between _ (List.singleton_inj.mp hi) (List.singleton_inj.mp hl)
      (List.singleton_inj.mp hu)
  case quantified plain hi hr =>
    exact text_quantified _ plain (List.singleton_inj.mp hi) (List.singleton_inj.mp hr)
  case subquery hi =>
    have query : Manner.plain.text _ = _ := List.singleton_inj.mp hi
    exact Part.text_eq rfl (by rw [Expr.toNode]; rfl) (by simp [query, Render.parens])
  case existence hi =>
    have query : Manner.plain.text _ = _ := List.singleton_inj.mp hi
    exact Part.text_eq rfl (by rw [Expr.toNode]; rfl) (by simp [query, Render.parens])
  case nonexistence q _ _ _ _ _ hi =>
    have query : Manner.plain.text _ = _ := List.singleton_inj.mp hi
    have proper : (Node.sublink ⟨.exists, none, none, q.toNode⟩).Proper := by
      simpa only [Expr.toNode, negateNode, Bool.false_eq_true, if_false] using
        (Expr.exists q false).proper_toNode
    have test : (Manner.below .not).text (.sublink ⟨.exists, none, none, q.toNode⟩) = _ :=
      text_of_manner (l := .text "EXISTS " :: Layout.parens [.part .plain q.toNode]) proper rfl
    exact Part.text_eq rfl (by rw [Expr.toNode]; rfl) (by simp [test, query, Render.parens])
  case amongRows hi hq =>
    have left : Manner.operand.text _ = _ := List.singleton_inj.mp hi
    have query : Manner.plain.text _ = _ := List.singleton_inj.mp hq
    exact Part.text_eq rfl (by rw [Expr.toNode]; rfl) (by simp [left, query, Render.parens, notWord])
  case quantifiedRows unequal _ _ _ _ hi hq =>
    exact text_quantifiedRows _ unequal (List.singleton_inj.mp hi) (List.singleton_inj.mp hq)
  case call c k _ _ named across hargs _ _ _ _ bare apart args order within filter =>
    have unstarred : (c.args.map (·.tree)).any Item.isStar = false := by
      simp only [List.any_map, List.any_eq_false, Function.comp_apply]
      intro x hx star
      have := args x hx
      unfold Item.isStar at star
      split at star
      case h_1 e => simp [e, Part.nodes, argumentNodes] at this
      case h_2 => cases star
    have filled (ordered : c.order ≠ []) : commas (c.args.map (·.text)) ≠ "" := by
      cases e : c.args
      case nil => exact absurd (bare e).2 ordered
      case cons x xs =>
        have first := (hargs x (by simp [e])).spelled
        exact commas_ne (first.spells.1.text_ne first.ne_nil) _
    have args := map_text (f := argumentNodes) (p := Part.argument) (by rw [argumentNodes])
      (fun i is => by cases i <;> simp [Part.nodes, argumentNodes]) args
    exact Invocation.text_eq named across apart filled (by simp [unstarred, args]; rfl) order within
      filter
  case starCall c k _ _ named across starred _ _ _ apart order within filter =>
    exact Invocation.text_eq named across apart (by simp [starred, commas])
      (by simp [starred, commas, Item.isStar]) order within filter
  case argument hi => exact (by simpa [Part.nodes, argumentNodes] using hi)
  case order o k _ unfilled hi =>
    have key : Manner.plain.text _ = _ := List.singleton_inj.mp hi
    refine Part.text_eq rfl (by rw [Order.toNode_tree unfilled]; rfl) ?_
    obtain ⟨x, asc, nulls, filling⟩ := o
    obtain rfl : filling = none := unfilled
    obtain _ | _ | _ := asc <;> obtain _ | _ | _ := nulls
    all_goals simp [key, Order.text, orderSuffix, Render.sortDir, Render.nullsFirst]
  case item hi =>
    have value : Manner.plain.text _ = _ := List.singleton_inj.mp hi
    exact Part.text_eq rfl (by rw [Item.toNode]; rfl) (by simp [value])
  case aliased w _ _ _ _ hw _ _ hi =>
    have value : Manner.plain.text _ = _ := List.singleton_inj.mp hi
    exact Part.text_eq rfl (by rw [Item.toNode]; rfl) (by simp [value, hw.text_eq])
  case star =>
    have proper : Node.Proper (.column ⟨["*"]⟩) :=
      (Item.star []).proper_toNode.child (by simp [Item.toNode, Node.offspring_eq])
    have star : Manner.plain.text (.column ⟨["*"]⟩) = _ :=
      text_of_layout (l := [.text "*"]) proper rfl
    exact Part.text_eq rfl (by rw [Item.toNode]; rfl) (by simp [star])
  case table t hw short _ none naming =>
    obtain ⟨_, node, text⟩ := Relation.text_table hw short none naming
    exact Part.text_eq (by rw [Part.nodes, node]) rfl (by simp [text])
  case derived q _ _ _ o lateral _ naming hi =>
    have query : Manner.plain.text _ = _ := List.singleton_inj.mp hi
    obtain ⟨plain, named, text⟩ := Naming.Rendered.plain naming
    have node : (Source.derived lateral q (o.map Naming.tree)).toNode =
        .derived ⟨lateral, q.toNode, o.map (·.name.ident.folded)⟩ := by
      rw [Source.toNode, if_pos plain, named]
    exact Part.text_eq (by rw [Part.nodes, node]) rfl
      (by simp [Layout.derived, Render.parens, query, text])
  case source hi => exact hi
  case join fits _ _ columns hk word _ _ hl hr on =>
    exact text_join fits columns hk word (List.singleton_inj.mp hl) (List.singleton_inj.mp hr)
      fun x e => List.singleton_inj.mp (on x e)
  case selection unclosed _ filled _ _ _ _ _ _ _ _ distinct items from_ cond groups having =>
    exact Selection.text_eq (fun xs e => (unclosed xs e).1) filled distinct items from_ cond groups
      having
  case body hi => exact hi
  case setOperation hop plain _ _ hl hr =>
    exact text_setOperation hop plain (List.singleton_inj.mp hl) (List.singleton_inj.mp hr)
  case cte hc columns _ hi => exact Common.text_eq hc columns (List.singleton_inj.mp hi)
  case query q k _ named recursive _ core _ _ _ unlocked ctes body order limit offset =>
    have ctes := map_text (f := cteNodes) (p := Part.cte) (by simp [cteNodes])
      (fun _ _ => by rw [cteNodes]; rfl) ctes
    have order := map_text_orders order
    have limit := map_text_option limit
    have offset := map_text_option offset
    have inner : Manner.plain.text _ = _ := List.singleton_inj.mp body
    obtain ⟨c, e⟩ : ∃ c, q.body.tree.toNode = .select c := by
      cases e : q.body.tree.toNode
      case select c => exact ⟨c, rfl⟩
      all_goals simp [e, isBody] at core
    rw [e] at core inner
    exact List.singleton_inj.mpr (Request.text_eq unlocked e core inner ctes order limit offset)

theorem Legible.node_eq (h : Legible .whole part text ts k) (hn : part.nodes = [n]) :
    Render.node n = .ok text := by
  have proper : n.Proper := part.proper_nodes n (by simp [hn])
  have written := h.text_eq
  rw [hn] at written
  exact Render.node_eq_ok_iff.mpr ⟨proper.complete.plain, List.singleton_inj.mp written⟩

end Texts

end SqlLens.Sql
