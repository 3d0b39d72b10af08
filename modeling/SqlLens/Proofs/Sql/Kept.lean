import SqlLens.Proofs.Sql.Bears
import SqlLens.Proofs.Sql.Regular

namespace SqlLens.Sql

open Node

variable {n l r : Node} {ns : List Node} {ws as bs cs ds es : List Atom} {s : String}

theorem bears_opaqueNode (kind : String) (h : Holds ws s) : (opaqueNode kind s).Bears ws :=
  bears_other kind h

theorem bears_operatorNode (op : String) (hl : l.Bears as) (hr : r.Bears bs) :
    (operatorNode op l r).Bears (as ++ bs) := by
  unfold operatorNode
  split <;> exact bears_binary _ nofun hl hr

theorem bears_notNode (h : n.Bears ws) : (notNode n).Bears ws := bears_unary _ (.inr rfl) h

theorem bears_negateNode (negated : Bool) (h : n.Bears ws) : (negateNode negated n).Bears ws := by
  unfold negateNode
  split
  · exact bears_notNode h
  · exact h

-- The node of a query, and its words clause by clause if it is not kept as text.
def Kept (n : Node) (ws : List Atom) : Prop :=
  n.Bears ws ∧ ∀ q, n = .select q →
    ∃ as bs cs ds es, SelectBears q as bs cs ds es ∧ (as ++ bs ++ cs ++ ds ++ es).Perm ws

theorem kept_opaqueNode (kind : String) (h : Holds ws s) : Kept (opaqueNode kind s) ws := by
  refine ⟨bears_opaqueNode kind h, ?_⟩
  rintro _ ⟨⟩

theorem kept_select {q : SqlLens.Select Node} (h : SelectBears q as bs cs ds es)
    (hp : (as ++ bs ++ cs ++ ds ++ es).Perm ws) : Kept (.select q) ws := by
  refine ⟨h.bears.perm hp, ?_⟩
  rintro _ ⟨⟩
  exact ⟨as, bs, cs, ds, es, h, hp⟩

theorem Kept.perm (h : Kept n ws) (hp : ws.Perm bs) : Kept n bs := by
  refine ⟨h.1.perm hp, fun q hq => ?_⟩
  have ⟨as, bs, cs, ds, es, hs, hp'⟩ := h.2 q hq
  exact ⟨as, bs, cs, ds, es, hs, hp'.trans hp⟩

theorem flatMap_words_of_untyped {columns : List AliasColumn} (h : ∀ c ∈ columns, c.type = none) :
    columns.flatMap AliasColumn.words = nameWords (columns.map (·.name)) := by
  induction columns
  case nil => rfl
  case cons c columns hi =>
    have ⟨hc, rest⟩ := List.forall_mem_cons.mp h
    simp [hi rest, AliasColumn.words, hc, nameWords]

theorem Attached.kept_queryNode {a : Attached} (hn : Kept n ws)
    (hw : AllBear a.withClause.toList as) (ho : AllBear a.sortClause bs)
    (hl : AllBear a.limitCount.toList cs) (hf : AllBear a.limitOffset.toList ds)
    (text : Holds (as ++ ws ++ bs ++ cs ++ ds) s) :
    Kept (a.queryNode n s) (as ++ ws ++ bs ++ cs ++ ds) := by
  unfold queryNode
  split
  case h_1 q =>
    split
    case h_1 q' e =>
      have ⟨as', bs', cs', ds', es', h, hp⟩ := hn.2 q rfl
      refine kept_select (h.onto? e hw ho hl hf) ?_
      rw [List.perm_iff_count] at hp ⊢
      intro w
      have := hp w
      simp only [List.count_append] at this ⊢
      omega
    case h_2 => exact kept_opaqueNode _ text
  case h_2 => exact kept_opaqueNode _ text

theorem Function.not_kept {f : Function} {l : ArgumentList} (hl : f.args = .list l)
    (fits : f.fits l) : isKeptAsText f.toNode = false := by
  obtain ⟨name, odbc, params, args, within, filter, tail⟩ := f
  obtain ⟨distinct, args, before, order, after⟩ := l
  cases hl
  rw [Function.toNode, if_pos fits]
  rfl

theorem Attached.queryNode_of_kept {a : Attached} (kept : isKeptAsText (a.queryNode n s)) :
    a.queryNode n s = opaqueNode "Query" s := by
  unfold queryNode at kept ⊢
  split
  case h_1 q =>
    cases e : a.onto? q
    case none => rfl
    case some => simp [e, isKeptAsText] at kept
  case h_2 => rfl

theorem Query.toNode_of_kept {q : Query} (kept : isKeptAsText q.toNode) :
    q.toNode = opaqueNode "Query" q.toText := by
  obtain ⟨recursive, ctes, body, order, interpolate, limits, rest⟩ := q
  rw [Query.toNode] at kept ⊢
  split at kept
  case isTrue fits =>
    rw [if_pos fits]
    exact Attached.queryNode_of_kept kept
  case isFalse unfit => rw [if_neg unfit]

mutual

theorem Expr.bears_toNode : (e : Expr) → e.toNode.Bears (e.words false)
  | .ident id => by
    rw [Expr.toNode]
    exact bears_columnNode id []
  | .compound first rest => by
    rw [Expr.toNode]
    exact bears_columnNode first rest
  | .binary l op r => by
    rw [Expr.toNode]
    exact bears_operatorNode op l.bears_toNode r.bears_toNode
  | .unary op e => by
    rw [Expr.toNode]
    split
    · exact bears_notNode e.bears_toNode
    · exact bears_unary op (.inl rfl) e.bears_toNode
  | .nested e => by
    rw [Expr.toNode]
    exact e.bears_toNode
  | .isNull e negated => by
    rw [Expr.toNode]
    exact bears_nullTest negated e.bears_toNode
  | .inList e items negated => by
    have row := bears_row (allBear_exprNodes items)
    rw [Expr.toNode]
    cases negated <;> exact bears_binary _ nofun e.bears_toNode row
  | .inQuery e q negated => by
    have query := bears_sublink (.inr rfl) q.kept_toNode.1
    rw [Expr.toNode]
    exact bears_negateNode negated (bears_test none (.inl rfl) e.bears_toNode query)
  | .between e negated low high => by
    have row : (Node.row ⟨[low.toNode, high.toNode]⟩).Bears (low.words false ++ high.words false) :=
      bears_row (.cons low.bears_toNode (.one high.bears_toNode))
    rw [Expr.toNode, Expr.words, List.append_assoc]
    cases negated <;> exact bears_binary _ nofun e.bears_toNode row
  | .like caseless negated any e pattern escape => by
    rw [Expr.toNode]
    split
    case isTrue => exact bears_opaqueNode _ (Expr.holds_toText false _)
    case isFalse h =>
      obtain ⟨rfl, rfl⟩ : any = false ∧ escape = none := by simpa using h
      rw [Expr.words, Option.toList_none, List.map_nil, List.append_nil]
      exact bears_binary _ nofun e.bears_toNode pattern.bears_toNode
  | .exists q negated => by
    rw [Expr.toNode]
    exact bears_negateNode negated (bears_sublink (.inl rfl) q.kept_toNode.1)
  | .subquery q => by
    rw [Expr.toNode]
    exact bears_sublink (.inr rfl) q.kept_toNode.1
  | .compareAny l op r isSome => by
    have hl := l.bears_toNode
    have hr := r.bears_toNode
    unfold Expr.toNode
    split <;> rename_i h <;> cases h
    · rw [Expr.toNode] at hr
      exact bears_test op (.inl rfl) hl hr
    · exact bears_binary op nofun hl hr
  | .compareAll l op r => by
    have hl := l.bears_toNode
    have hr := r.bears_toNode
    unfold Expr.toNode
    split <;> rename_i h <;> cases h
    · rw [Expr.toNode] at hr
      exact bears_test op (.inr rfl) hl hr
    · exact bears_binary op nofun hl hr
  | .tuple items => by
    rw [Expr.toNode]
    exact bears_row (allBear_exprNodes items)
  | .literal l => by
    rw [Expr.toNode]
    exact bears_literal l
  | .call f => by
    rw [Expr.toNode]
    exact f.bears_toNode
  | .access root links => by
    rw [Expr.toNode]
    exact bears_opaqueNode _ (Expr.holds_toText false _)
  | .phrase pieces => by
    rw [Expr.toNode]
    exact bears_opaqueNode _ (holds_phraseText pieces)

theorem allBear_exprNodes : (es : List Expr) → AllBear (exprNodes es) (exprWords false es)
  | [] => .nil
  | e :: es => .cons e.bears_toNode (allBear_exprNodes es)

theorem allBear_exprNode? : (e : Option Expr) → AllBear (exprNode? e).toList (exprWords? false e)
  | none => .nil
  | some e => .one e.bears_toNode

theorem Function.bears_toNode : (f : Function) → f.toNode.Bears (f.words false)
  | ⟨name, odbc, params, .list ⟨distinct, args, before, order, after⟩, within, filter, tail⟩ => by
    rw [Function.toNode]
    split
    case isTrue fits =>
      have kept := Function.not_kept rfl fits
      simp only [Function.fits, Bool.and_eq_true, List.isEmpty_iff] at fits
      obtain ⟨⟨⟨⟨⟨⟨_, rfl⟩, _⟩, rfl⟩, rfl⟩, rfl⟩, _⟩ := fits
      refine (bears_call (holds_nameText name) (allBear_argumentNodes args)
        ((allBear_orderNodes order).append (allBear_orderNodes within))
        (allBear_exprNode? filter)).perm ?_
      simp only [Function.words, Arguments.words, ArgumentList.words, phraseWords, kept]
      cases args.any Item.isStar <;> simp
    case isFalse => exact bears_opaqueNode _ (Function.holds_toText false _)
  | ⟨name, odbc, params, .none, within, filter, tail⟩ => by
    rw [Function.toNode]
    · exact bears_opaqueNode _ (Function.holds_toText false _)
    · simp
  | ⟨name, odbc, params, .query q, within, filter, tail⟩ => by
    rw [Function.toNode]
    · exact bears_opaqueNode _ (Function.holds_toText false _)
    · simp

theorem allBear_argumentNodes : (is : List Item) → AllBear (argumentNodes is) (argumentWords false is)
  | [] => .nil
  | .star _ :: is => by
    rw [argumentNodes]
    exact allBear_argumentNodes is
  | .expr e :: is => by
    rw [argumentNodes]
    exact .cons e.bears_toNode (allBear_argumentNodes is)
  | .aliased e as_ :: is => by
    rw [argumentNodes]
    exact .cons (bears_opaqueNode _ ((e.holds_toText true).before.append as_.holds_toText))
      (allBear_argumentNodes is)
  | .phrase pieces :: is => by
    rw [argumentNodes]
    exact .cons (bears_opaqueNode _ (holds_phraseText pieces)) (allBear_argumentNodes is)

theorem OrderItem.bears_toNode : (i : OrderItem) → i.toNode.Bears (i.words false)
  | ⟨e, asc, nullsFirst, fill⟩ => by
    unfold OrderItem.toNode
    split
    case isTrue none =>
      rw [OrderItem.words, List.isEmpty_iff.mp none, phraseWords, List.append_nil]
      exact bears_sort _ nullsFirst e.bears_toNode
    case isFalse => exact bears_opaqueNode _ (OrderItem.holds_toText false _)

theorem allBear_orderNodes : (is : List OrderItem) → AllBear (orderNodes is) (orderWords false is)
  | [] => .nil
  | i :: is => .cons i.bears_toNode (allBear_orderNodes is)

theorem OrderBy.allBear_toNodes : (o : OrderBy) → AllBear o.toNodes (o.words false)
  | .items is => by
    rw [OrderBy.toNodes]
    exact allBear_orderNodes is
  | .all pieces => .one (bears_opaqueNode _ (holds_phraseText pieces))

-- The two numbers may be written the other way round.
theorem Limits.exists_words : (l : Limits) → l.fits → ∃ count offset,
    AllBear l.count?.toList count ∧ AllBear l.offset?.toList offset ∧
      (count ++ offset).Perm (l.words false)
  | .plain limit offset word by_, fits => by
    obtain ⟨_, rfl⟩ : word = .none ∧ by_ = [] := by simpa [Limits.fits] using fits
    refine ⟨_, _, allBear_exprNode? limit, allBear_exprNode? offset, ?_⟩
    simp [Limits.words, exprWords]
  | .comma offset limit, _ =>
    ⟨_, _, .one limit.bears_toNode, .one offset.bears_toNode, List.perm_append_comm⟩

theorem Query.kept_toNode : (q : Query) → Kept q.toNode (q.words false)
  | ⟨recursive, ctes, body, order, interpolate, limits, rest⟩ => by
    have text := Query.holds_toText false ⟨recursive, ctes, body, order, interpolate, limits, rest⟩
    cases kept : isKeptAsText (Query.toNode _)
    case true => exact Query.toNode_of_kept kept ▸ kept_opaqueNode _ text
    simp only [Query.words, kept, Bool.or_self] at text ⊢
    rw [Query.toNode]
    split
    case isTrue fits =>
      obtain ⟨⟨rfl, plain⟩, rfl⟩ : (interpolate = [] ∧ limits.fits) ∧ rest = [] := by
        simpa [Query.fits] using fits
      have ⟨count, offset, hl, hf, hp⟩ := limits.exists_words plain
      have perm : (cteWords false ctes ++ body.words false ++ order.words false ++ count ++
          offset).Perm (cteWords false ctes ++ body.words false ++ order.words false ++
            phraseWords [] ++ limits.words false ++ phraseWords []) := by
        simp only [phraseWords, List.append_nil, List.append_assoc]
        exact ((hp.append_left _).append_left _).append_left _
      refine (Attached.kept_queryNode body.kept_toNode ?_ order.allBear_toNodes hl hf
        (text.perm perm.symm)).perm perm
      dsimp only
      split
      case isTrue none => exact List.isEmpty_iff.mp none ▸ .nil
      case isFalse => exact .one (bears_with recursive (allBear_cteNodes ctes))
    case isFalse => exact kept_opaqueNode _ text

theorem Cte.bears_toNode : (c : Cte) → c.toNode.Bears (c.words false)
  | ⟨name, columns, materialized, query, from_⟩ => by
    rw [Cte.toNode]
    split
    case isTrue fits =>
      obtain ⟨⟨untyped, _⟩, _⟩ : ((∀ c ∈ columns, c.type = none) ∧ from_ = none) ∧
        materialized = none := by simpa [Cte.fits] using fits
      have := bears_cte name (columns.map (·.name)) query.kept_toNode.1
      subst from_
      simpa [Cte.words, fits, flatMap_words_of_untyped untyped, Function.comp_def] using this
    case isFalse => exact bears_opaqueNode _ (Cte.holds_toText false _)

theorem allBear_cteNodes : (cs : List Cte) → AllBear (cteNodes cs) (cteWords false cs)
  | [] => .nil
  | c :: cs => .cons c.bears_toNode (allBear_cteNodes cs)

theorem Body.kept_toNode : (b : Body) → Kept b.toNode (b.words false)
  | .select s => by
    rw [Body.toNode]
    exact s.kept_toNode
  | .query q => by
    rw [Body.toNode]
    exact q.kept_toNode
  | .setOperation op quantifier l r => by
    rw [Body.toNode]
    split
    case isTrue => exact kept_opaqueNode _ (Body.holds_toText false _)
    case isFalse plain =>
      refine kept_select (selectBears_arms _ _ ?_ l.kept_toNode.1 r.kept_toNode.1) ?_
      · cases op <;> nofun
      · simp [Body.words, plain]
  | .phrase pieces => by
    rw [Body.toNode]
    exact kept_opaqueNode _ (holds_phraseText pieces)

theorem Distinct.allBear_toNodes : (d : Distinct) → AllBear d.toNodes (d.words false)
  | .none => .nil
  | .plain => .nil
  | .on es => by
    rw [Distinct.toNodes]
    exact allBear_exprNodes es

theorem Select.kept_toNode : (s : Select) → Kept s.toNode (s.words false)
  | ⟨fromFirst, lead, distinct, top, items, afterItems, from_, afterFrom, cond, groupAll,
      groups, modifiers, afterGroup, having, tail⟩ => by
    rw [Select.toNode]
    split
    case isTrue fits =>
      rw [Select.words, fits]
      simp only [Select.fits, Bool.and_eq_true, List.isEmpty_iff] at fits
      obtain ⟨⟨⟨⟨⟨⟨⟨⟨_, rfl⟩, rfl⟩, rfl⟩, rfl⟩, _⟩, rfl⟩, rfl⟩, rfl⟩ := fits
      have on : distinct.isPresent ∨ distinct.toNodes = [] := by
        cases distinct <;> simp [Distinct.isPresent, Distinct.toNodes]
      refine kept_select (selectBears_plain on distinct.allBear_toNodes (allBear_itemNodes items)
        (allBear_sourceNodes from_) (allBear_exprNode? cond) (allBear_exprNodes groups)
        (allBear_exprNode? having)) ?_
      simp [phraseWords]
    case isFalse => exact kept_opaqueNode _ (Select.holds_toText false _)

theorem Item.bears_toNode : (i : Item) → i.toNode.Bears (i.words false)
  | .expr e => by
    rw [Item.toNode]
    exact bears_target_none e.bears_toNode
  | .aliased e as_ => by
    rw [Item.toNode]
    exact bears_target_some as_ e.bears_toNode
  | .star _ => fun _ _ => .nil
  | .phrase pieces => by
    rw [Item.toNode]
    exact bears_target_none (bears_opaqueNode _ (holds_phraseText pieces))

theorem allBear_itemNodes : (is : List Item) → AllBear (itemNodes is) (itemWords false is)
  | [] => .nil
  | i :: is => .cons i.bears_toNode (allBear_itemNodes is)

theorem Source.bears_toNode : (s : Source) → s.toNode.Bears (s.words false)
  | .table name middle as_ after => by
    have text := Source.holds_toText false (.table name middle as_ after)
    rw [Source.toNode]
    split
    case isTrue fits =>
      obtain ⟨⟨rfl, rfl⟩, plain⟩ : (middle = [] ∧ after = []) ∧ Alias.plain as_ := by
        simpa using fits
      split
      case h_1 ht => simpa [Source.words, phraseWords] using bears_table ht plain
      case h_2 => exact bears_opaqueNode _ text
    case isFalse => exact bears_opaqueNode _ text
  | .derived lateral q as_ => by
    rw [Source.toNode]
    split
    case isTrue plain =>
      rw [Source.words, plain]
      exact bears_derived lateral plain q.kept_toNode.1
    case isFalse => exact bears_opaqueNode _ (Source.holds_toText false _)
  | .nested s none => by
    rw [Source.toNode]
    simpa [Source.words, aliasWords] using s.bears_toNode
  | .nested s (some as_) => by
    rw [Source.toNode]
    exact bears_opaqueNode _ (Source.holds_toText false _)
  | .join l global op r constraint => by
    have text := Source.holds_toText false (.join l global op r constraint)
    rw [Source.toNode]
    split
    case h_1 kind columns hk hc hf =>
      have kept : isKeptAsText (Source.join l global op r constraint).toNode = false := by
        rw [Source.toNode, hk, hc, hf]
        rfl
      rw [Source.words, kept]
      cases constraint
      case none | natural =>
        cases hc
        exact bears_join_using kind _ [] l.bears_toNode r.bears_toNode
      case on => exact bears_join kind _ _ l.bears_toNode r.bears_toNode (Expr.bears_toNode _)
      case columns names =>
        obtain ⟨ids, words, rfl⟩ := exists_idents hc
        rw [JoinConstraint.words, words]
        exact bears_join_using kind _ ids l.bears_toNode r.bears_toNode
    case h_2 => exact bears_opaqueNode _ text
  | .asof l global r matching constraint => by
    rw [Source.toNode]
    exact bears_opaqueNode _ (Source.holds_toText false _)
  | .phrase pieces => by
    rw [Source.toNode]
    exact bears_opaqueNode _ (holds_phraseText pieces)

theorem allBear_sourceNodes : (ss : List Source) → AllBear (sourceNodes ss) (sourceWords false ss)
  | [] => .nil
  | s :: ss => .cons s.bears_toNode (allBear_sourceNodes ss)

end

theorem allBear_columns (ids : List Ident) :
    AllBear (ids.map fun id => .target { name := some id.folded }) (nameWords ids) := by
  induction ids
  case nil => exact .nil
  case cons id ids hi => exact .cons (bears_target_name id) hi

theorem Insert.bears_toNode (i : Insert) : i.toNode.Bears (i.words false) := by
  unfold Insert.toNode
  split
  case h_1 t fits ht =>
    have kept : isKeptAsText i.toNode = false := by simp [Insert.toNode, fits, ht, isKeptAsText]
    simp only [Insert.fits, Bool.and_eq_true, List.isEmpty_iff, Option.isNone_iff_eq_none] at fits
    obtain ⟨⟨⟨⟨⟨_, target⟩, as_⟩, middle⟩, values⟩, tail⟩ := fits
    have table : (Node.table t).Bears (nameWords i.table) := by
      have same : { t with aliasName := none } = t := by
        unfold tableOfName? at ht
        split at ht <;> cases ht <;> rfl
      simpa [aliasWords, aliasName, same] using bears_table ht (a := none) rfl
    have source : AllBear (i.source.map Query.toNode).toList (i.rowWords false) := by
      rw [rowWords]
      cases i.source
      case none => exact values ▸ .nil
      case some q => exact .one q.kept_toNode.1
    have := bears_insert table (allBear_columns i.columns) source
    simpa [words, kept, target, as_, middle, tail, phraseWords, nameWords] using this
  case h_2 => exact bears_opaqueNode _ (i.holds_pieces false)

theorem Assignment.bears_toNode? {a : Assignment} (h : a.toNode? = some n) :
    n.Bears (a.words false) := by
  unfold toNode? at h
  split at h <;> cases h
  case h_1 id target =>
    rw [words, target]
    exact (bears_target_some id a.value.bears_toNode).perm List.perm_append_comm

theorem allBear_assignments {as : List Assignment} {targets : List Node}
    (h : as.mapM Assignment.toNode? = some targets) :
    AllBear targets (as.flatMap (Assignment.words false)) := by
  induction as generalizing targets
  case nil =>
    cases h
    exact .nil
  case cons a as hi =>
    simp only [List.mapM_cons, Option.bind_eq_bind, Option.bind_eq_some_iff, Option.pure_def,
      Option.some.injEq] at h
    obtain ⟨n, hn, rest, hr, rfl⟩ := h
    exact .cons (Assignment.bears_toNode? hn) (hi hr)

theorem Update.bears_toNode (u : Update) : u.toNode.Bears (u.words false) := by
  unfold Update.toNode
  dsimp only
  split
  case h_1 targets fits ht =>
    have kept : isKeptAsText u.toNode = false := by simp [Update.toNode, fits, ht, isKeptAsText]
    simp only [Bool.and_eq_true, List.isEmpty_iff] at fits
    obtain ⟨⟨_, none⟩, none'⟩ := fits
    have := bears_update u.table.bears_toNode (allBear_assignments ht)
      (allBear_sourceNodes u.fromAfter) (allBear_exprNode? u.cond)
    simpa [Update.words, kept, none, none', sourceWords, phraseWords] using this
  case h_2 => exact bears_opaqueNode _ (u.holds_pieces false)

theorem Delete.bears_toNode (d : Delete) : d.toNode.Bears (d.words false) := by
  unfold Delete.toNode
  dsimp only
  split
  case h_1 table only =>
    split
    case isTrue fits =>
      have kept : isKeptAsText d.toNode = false := by simp [Delete.toNode, fits, only, isKeptAsText]
      simp only [Bool.and_eq_true, List.isEmpty_iff] at fits
      obtain ⟨⟨⟨tables, using_⟩, tail⟩, _⟩ := fits
      have := bears_delete table.bears_toNode (allBear_exprNode? d.cond)
      simpa [Delete.words, kept, only, tables, using_, tail, sourceWords, phraseWords] using this
    case isFalse => exact bears_opaqueNode _ (d.holds_pieces false)
  case h_2 => exact bears_opaqueNode _ (d.holds_pieces false)

theorem Statement.bears_toNode : (s : Statement) → s.toNode.Bears (s.words false)
  | .query q => q.kept_toNode.1
  | .insert i => i.bears_toNode
  | .update u => u.bears_toNode
  | .delete d => d.bears_toNode
  | .phrase pieces => bears_opaqueNode _ (holds_phraseText pieces)

theorem allBear_statements (ss : List Statement) :
    AllBear (ss.map Statement.toNode) (ss.flatMap (Statement.words false)) := by
  induction ss
  case nil => exact .nil
  case cons s ss hi => exact .cons s.bears_toNode hi

theorem exists_sql_holds (ss : List Statement) :
    ∃ s, Renderer.sql (ss.map Statement.toNode) = .ok s ∧
      Holds (ss.flatMap (Statement.words false)) s := by
  have complete : ∀ n ∈ ss.map Statement.toNode, n.Complete := by
    simpa using fun s _ => (Statement.proper_toNode s).complete
  refine ⟨_, sql_of_complete complete, ?_⟩
  have each : Layout.EachIn Manner.HasText
      ((ss.map Statement.toNode).map fun n => [.part .plain n]) :=
    (Layout.eachIn_map .plain).mpr fun n hn => (complete n hn).plain
  have := ((allBear_statements ss).parts .plain each).intercalate "; "
  simpa [Function.comp_def] using this

-- Whatever is parsed has a text that holds its words, each at a place of its own, but for those
-- that belong to stars outside of what is kept as text. So has each statement by itself: each of its
-- words stands in its text.
theorem words_kept {d : Dialect} {text : String} {statements : List Statement}
    (h : parse d text = .ok statements) :
    (∃ S s, Node.ofSql d text = .ok S ∧ Renderer.sql S = .ok s ∧
      Holds (statements.flatMap (Statement.words false)) s) ∧
    ∀ statement ∈ statements, ∃ s, Renderer.sql [statement.toNode] = .ok s ∧
      Holds (statement.words false) s ∧
      ∀ w ∈ statement.words false, ∃ t ∈ w.spellings, ∃ pre post, s = pre ++ t ++ post := by
  refine ⟨?_, fun statement _ => ?_⟩
  · have ⟨s, hs, words⟩ := exists_sql_holds statements
    exact ⟨_, s, by rw [Node.ofSql, h], hs, words⟩
  · have ⟨s, hs, words⟩ := exists_sql_holds [statement]
    rw [List.flatMap_singleton] at words
    exact ⟨s, hs, words, fun w => words.exists_spelling⟩

-- A call that the tree has no kind for, and a query with a clause that it has no place for.
theorem words_kept_window :
    let text := "SELECT sum(a) OVER (PARTITION BY B) FROM t; SELECT :p FROM u FOR UPDATE"
    ∃ statements, parse .generic text = .ok statements ∧
      Atom.name ⟨"B", none⟩ ∈ statements.flatMap (Statement.words false) ∧
      Atom.literal (.placeholder ":p") ∈ statements.flatMap (Statement.words false) ∧
      (∃ S s, Node.ofSql .generic text = .ok S ∧ Renderer.sql S = .ok s ∧
        Holds (statements.flatMap (Statement.words false)) s) ∧
      ∀ statement ∈ statements, ∃ s, Renderer.sql [statement.toNode] = .ok s ∧
        Holds (statement.words false) s ∧
        ∀ w ∈ statement.words false, ∃ t ∈ w.spellings, ∃ pre post, s = pre ++ t ++ post := by
  intro text
  have parsed : (parse .generic text).toOption.any fun statements =>
      let words := statements.flatMap (Statement.words false)
      words.contains (.name ⟨"B", none⟩) && words.contains (.literal (.placeholder ":p")) := by
    decide +kernel
  obtain ⟨statements, h, found⟩ := Except.exists_of_any parsed
  simp only [Bool.and_eq_true, List.contains_iff_mem] at found
  exact ⟨statements, h, found.1, found.2, words_kept h⟩

-- The columns that a star leaves out are not in the text.
theorem star_options_lost : ¬∀ (d : Dialect) text statements, parse d text = .ok statements →
    ∃ S s, Node.ofSql d text = .ok S ∧ Renderer.sql S = .ok s ∧
      ∀ id, .name id ∈ statements.flatMap (Statement.words true) →
        ∃ t ∈ id.spellings, ∃ pre post, s = pre ++ t ++ post := by
  intro kept
  let text := "SELECT * EXCEPT (a) FROM t"
  let id : Ident := ⟨"a", none⟩
  have parsed : (parse .generic text).toOption.any fun statements =>
      (statements.flatMap (Statement.words true)).contains (.name id) := by decide +kernel
  have rendered : ((Node.ofSql .generic text).toOption.bind fun S => (Renderer.sql S).toOption) =
      some "SELECT * FROM t" := by decide +kernel
  have spelled : ∀ t ∈ id.spellings, 'a' ∈ t.toList := by decide +kernel
  obtain ⟨statements, h, found⟩ := Except.exists_of_any parsed
  obtain ⟨S, s, hS, hs, words⟩ := kept .generic text statements h
  obtain rfl : s = "SELECT * FROM t" := by simpa [hS, hs, Except.toOption] using rendered
  obtain ⟨t, ht, pre, post, e⟩ := words id (List.contains_iff_mem.mp found)
  have : 'a' ∈ "SELECT * FROM t".toList := by simp [e, spelled t ht]
  revert this
  decide +kernel

end SqlLens.Sql
