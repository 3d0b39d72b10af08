import SqlLens.Proofs.Render.Complete
import SqlLens.Proofs.Sql.Words

namespace SqlLens

open Layout Sql

namespace Node

-- Wherever the node is written, its text holds the words.
def Bears (n : Node) (ws : List Atom) : Prop := ∀ m : Manner, m.HasText n → Holds ws (m.text n)

-- The same for several nodes, each with its own words.
inductive AllBear : List Node → List Atom → Prop
  | nil : AllBear [] []
  | cons : Bears n ws → AllBear ns vs → AllBear (n :: ns) (ws ++ vs)

end Node

namespace Layout

-- If the nodes of the layout have texts, the text of the layout holds the words.
def Bears (l : Layout) (ws : List Atom) : Prop := l.Each Manner.HasText → Holds ws l.content

-- The same for several layouts, each with its own words.
def BearsIn (ls : List Layout) (ws : List Atom) : Prop :=
  EachIn Manner.HasText ls → HoldsIn ws (ls.map content)

variable {l l' : Layout} {ls ls' : List Layout} {m : Manner} {n : Node} {ns : List Node}
variable {ws vs : List Atom} {s : String}

namespace Bears

theorem nil : Bears [] [] := fun _ => .nil

theorem text (hs : Holds ws s) (hl : l.Bears vs) : Bears (.text s :: l) (ws ++ vs) := by
  intro has
  rw [content_cons]
  exact hs.append (hl ((each_cons _).mp has).2)

theorem part (hn : n.Bears ws) (hl : l.Bears vs) : Bears (.part m n :: l) (ws ++ vs) := by
  intro has
  have ⟨here, rest⟩ := (each_cons _).mp has
  rw [content_cons]
  exact (hn m here).append (hl rest)

theorem perm (hl : l.Bears ws) (hp : ws.Perm vs) : l.Bears vs := fun has => (hl has).perm hp

theorem append (hl : l.Bears ws) (hl' : l'.Bears vs) : Bears (l ++ l') (ws ++ vs) := by
  intro has
  have ⟨here, rest⟩ := each_append.mp has
  rw [content_append]
  exact (hl here).append (hl' rest)

-- A text without words.
theorem word (s : String) (hl : l.Bears ws) : Bears (.text s :: l) ws := text .nil hl

theorem onlyText (hs : Holds ws s) : Bears [.text s] ws := by simpa using text hs nil

theorem onlyPart (hn : n.Bears ws) : Bears [.part m n] ws := by simpa using part hn nil

theorem before (hl : l.Bears ws) (s : String) : Bears (l ++ [.text s]) ws := by
  simpa using hl.append (word s nil)

theorem parens (hl : l.Bears ws) : Bears (parens l) ws := (hl.before ")").word "("

theorem parensIf (hl : l.Bears ws) : (b : Bool) → Bears (parensIf b l) ws
  | true => hl.parens
  | false => hl

end Bears

namespace BearsIn

theorem nil : BearsIn [] [] := fun _ => .nil

theorem cons (hl : l.Bears ws) (hr : BearsIn ls vs) : BearsIn (l :: ls) (ws ++ vs) := by
  intro has
  have ⟨here, rest⟩ := eachIn_cons.mp has
  exact .cons (hl here) (hr rest)

theorem one (hl : l.Bears ws) : BearsIn [l] ws := by simpa using cons hl nil

theorem append (hl : BearsIn ls ws) (hr : BearsIn ls' vs) : BearsIn (ls ++ ls') (ws ++ vs) := by
  intro has
  have ⟨here, rest⟩ := eachIn_append.mp has
  rw [List.map_append]
  exact (hl here).append (hr rest)

theorem separated (sep : String) (h : BearsIn ls ws) : Bears (separated sep ls) ws := by
  intro has
  rw [content_separated]
  exact (h ((each_separated _).mp has)).intercalate sep

theorem clause {o : Option Layout} (keyword : String) (h : BearsIn o.toList ws) :
    BearsIn (clause keyword o) ws := by
  cases o
  case none => exact h
  case some l =>
    have : Bears l ws := h.separated ""
    exact one (this.word _)

end BearsIn

end Layout

namespace Node

variable {n : Node} {ns ks : List Node} {o : Option Node} {l : Layout} {m : Manner}
variable {ws vs : List Atom}

theorem Bears.perm (h : n.Bears ws) (hp : ws.Perm vs) : n.Bears vs := fun m hm => (h m hm).perm hp

namespace AllBear

theorem one (h : n.Bears ws) : AllBear [n] ws := by simpa using cons h nil

theorem append (h : AllBear ns ws) (h' : AllBear ks vs) : AllBear (ns ++ ks) (ws ++ vs) := by
  induction h
  case nil => exact h'
  case cons hn _ hi => simpa [List.append_assoc] using cons hn hi

theorem eq_nil (h : AllBear [] ws) : ws = [] := by
  cases h
  rfl

-- Of two lists one is empty.
theorem either {js : List Node} (h : AllBear ns ws) (h' : AllBear ks vs)
    (e : ns = [] ∧ js = ks ∨ ks = [] ∧ js = ns) : AllBear js (ws ++ vs) := by
  obtain ⟨rfl, rfl⟩ | ⟨rfl, rfl⟩ := e
  · simpa [h.eq_nil] using h'
  · simpa [h'.eq_nil] using h

theorem parts (m : Manner) (h : AllBear ns ws) : BearsIn (ns.map fun n => [.part m n]) ws := by
  induction h
  case nil => exact .nil
  case cons hn _ hi => exact .cons (.onlyPart hn) hi

theorem all (h : AllBear ns ws) : Layout.Bears (all ns) ws := (h.parts .plain).separated ", "

theorem all? (h : AllBear ns ws) : BearsIn (all? ns).toList ws := by
  cases h
  case nil => exact .nil
  case cons hn hr => exact .one (cons hn hr).all

theorem part? (h : AllBear o.toList ws) : BearsIn (part? o).toList ws := by
  cases o
  case none => exact h.eq_nil ▸ .nil
  case some n => exact h.parts .plain

end AllBear

-- Whatever the manner, a node has the words of its layout. Manners in which it is written in a way
-- of its own are looked at apart.
theorem bears_of_layout (hl : n.layout? = some l) (h : l.Bears ws)
    (hs : ∀ (m : Manner) (k : Layout), m.special n → m.layout? n = some k → k.Bears ws := by
      rintro ⟨⟩ _ ⟨⟩) :
    n.Bears ws := by
  intro m hm
  have ⟨k, hk, has⟩ := Manner.hasText_iff.mp hm
  rw [Manner.text_eq_content hk has]
  cases special : m.special n
  case true => exact hs m k special hk has
  case false =>
    rw [Manner.layout?_of_not_special special, hl] at hk
    cases hk
    exact h.parensIf _ has

theorem bears_other (kind : String) (h : Holds ws text) : (other ⟨kind, some text⟩).Bears ws :=
  bears_of_layout rfl (.onlyText h)

theorem holds_columnField (id : Ident) : Holds [.name id] (Render.columnField id.folded) :=
  .single (by simp [Atom.spellings, Ident.spellings])

theorem holds_quoteIdent (id : Ident) : Holds [.name id] (Render.quoteIdent id.folded) :=
  .single (by simp [Atom.spellings, Ident.spellings])

theorem holdsIn_names {f : Ident → String} (h : ∀ id, Holds [.name id] (f id)) (ids : Name) :
    HoldsIn (nameWords ids) (ids.map f) := by
  rw [nameWords_eq_flatMap]
  exact holdsIn_map h ids

theorem bears_columnNode (first : Ident) (rest : Name) :
    (columnNode (first :: rest)).Bears (nameWords (first :: rest)) := by
  refine bears_of_layout rfl (.onlyText ?_)
  have := (holdsIn_names holds_columnField (first :: rest)).intercalate "."
  simpa [Function.comp_def] using this

theorem bears_literal (l : Literal) : l.toNode.Bears [.literal l] := by
  cases l
  case other => exact bears_other _ (Literal.holds_toText _)
  case boolean value =>
    refine bears_of_layout rfl (.onlyText (.single ?_))
    cases value <;> simp [Atom.spellings, Literal.spellings, Render.const, Literal.toText]
  all_goals
    refine bears_of_layout rfl (.onlyText (.single ?_))
    simp [Atom.spellings, Literal.spellings, Render.const, Literal.toText]

variable {l r c : Node} {as bs cs ds es : List Atom}

theorem bears_binary {kind : OperatorKind} (name : String) (hk : kind ≠ .not) (hl : l.Bears as)
    (hr : r.Bears bs) : (operator ⟨kind, name, some l, some r⟩).Bears (as ++ bs) := by
  cases kind
  case not => contradiction
  case any | all => exact bears_of_layout rfl (.part hl (.word _ (.parens (.onlyPart hr))))
  all_goals exact bears_of_layout rfl (.part hl (.word _ (.onlyPart hr)))

theorem bears_unary {kind : OperatorKind} (name : String) (hk : kind = .op ∨ kind = .not)
    (hr : r.Bears ws) : (operator ⟨kind, name, none, some r⟩).Bears ws := by
  obtain rfl | rfl := hk <;> exact bears_of_layout rfl (.word _ (.onlyPart hr))

theorem bears_row (h : AllBear ns ws) : (row ⟨ns⟩).Bears ws := by
  refine bears_of_layout rfl h.all.parens fun m k special hk => ?_
  cases m <;> try cases special
  case range =>
    -- Two bounds.
    obtain ⟨low, high, rfl⟩ := List.length_eq_two.mp (beq_iff_eq.mp special)
    cases hk
    obtain _ | ⟨hl, _ | ⟨hh, ⟨⟩⟩⟩ := h
    exact .part hl (.word _ (.part hh .nil))

theorem bears_target_none (h : n.Bears ws) : (target ⟨none, some n⟩).Bears ws := by
  refine bears_of_layout rfl (.onlyPart h) fun m k special hk => ?_
  cases m <;> cases special
  cases hk

theorem bears_target_name (id : Ident) : (target ⟨some id.folded, none⟩).Bears [.name id] := by
  refine bears_of_layout rfl (.onlyText (holds_quoteIdent id)) fun m k special hk => ?_
  cases m <;> cases special
  cases hk

theorem bears_target_some (id : Ident) (h : n.Bears ws) :
    (target ⟨some id.folded, some n⟩).Bears (ws ++ [.name id]) := by
  refine bears_of_layout rfl (.part h (.onlyText (holds_quoteIdent id).after))
    fun m k special hk => ?_
  cases m <;> cases special
  cases hk
  exact (Layout.Bears.text (holds_quoteIdent id).before (.onlyPart h)).perm List.perm_append_comm

theorem bears_nullTest (negated : Bool) (h : n.Bears ws) : (nullTest ⟨n, negated⟩).Bears ws :=
  bears_of_layout rfl (Layout.Bears.before (.onlyPart h) _)

theorem bears_sort (dir : SortDir) (nulls : Option Bool) (h : n.Bears ws) :
    (sort ⟨n, dir, nulls⟩).Bears ws :=
  bears_of_layout rfl (Layout.Bears.before (.onlyPart h) _)

theorem bears_sublink {kind : SublinkKind} (hk : kind = .exists ∨ kind = .expr) (h : n.Bears ws) :
    (sublink ⟨kind, none, none, n⟩).Bears ws := by
  obtain rfl | rfl := hk
  · exact bears_of_layout rfl (.word _ (.parens (.onlyPart h)))
  · exact bears_of_layout rfl (.parens (.onlyPart h))

theorem bears_test {kind : SublinkKind} (op : Option String) (hk : kind = .any ∨ kind = .all)
    (hl : l.Bears as) (hr : (sublink ⟨.expr, none, none, r⟩).Bears bs) :
    (sublink ⟨kind, op, some l, r⟩).Bears (as ++ bs) := by
  have query : Layout.Bears (parens [.part .plain r]) bs := by
    intro has
    have layout : Manner.plain.layout? (sublink ⟨.expr, none, none, r⟩) =
      some (parens [.part .plain r]) := rfl
    rw [← Manner.text_eq_content layout has]
    exact hr .plain (Manner.hasText_iff.mpr ⟨_, layout, has⟩)
  obtain rfl | rfl := hk <;> exact bears_of_layout rfl (.part hl (.word _ query))

theorem bears_with (recursive : Bool) (h : AllBear ns ws) : (Node.with ⟨recursive, ns⟩).Bears ws :=
  bears_of_layout rfl (.word _ h.all)

theorem holds_quoteIdents (ids : List Ident) :
    Holds (nameWords ids) (Render.quoteIdents (ids.map Ident.folded)) := by
  have := (holdsIn_names holds_quoteIdent ids).intercalate ", "
  simpa [Render.quoteIdents, Function.comp_def] using this

theorem bears_cte (name : Ident) (columns : List Ident) (h : n.Bears ws) :
    (Node.cte ⟨name.folded, columns.map Ident.folded, n⟩).Bears
      ([.name name] ++ nameWords columns ++ ws) := by
  have names : Holds (nameWords columns) (if (columns.map Ident.folded).isEmpty then ""
      else Render.parens (Render.quoteIdents (columns.map Ident.folded))) := by
    cases columns
    case nil => exact .nil
    case cons => exact (holds_quoteIdents _).after.before
  exact bears_of_layout rfl
    (.text ((holds_quoteIdent name).append names).before (.parens (.onlyPart h)))

theorem holds_aliasText_plain {a : Option Alias} (h : Alias.plain a) :
    Holds (aliasWords a) (Render.aliasText (aliasName a)) := by
  cases a
  case none => exact .nil
  case some a =>
    have : a.columns = [] := by simpa [Alias.plain] using h
    rw [aliasWords, this]
    exact (holds_quoteIdent a.name).after

theorem bears_derived (lateral : Bool) {a : Option Alias} (ha : Alias.plain a) (h : n.Bears ws) :
    (Node.derived ⟨lateral, n, aliasName a⟩).Bears (ws ++ aliasWords a) :=
  bears_of_layout rfl (.word _
    (.append (.parens (.onlyPart h)) (.onlyText (holds_aliasText_plain ha))))

theorem bears_table {name : Name} {t : Table} {a : Option Alias} (ht : tableOfName? name = some t)
    (ha : Alias.plain a) :
    (Node.table { t with aliasName := aliasName a }).Bears (nameWords name ++ aliasWords a) := by
  refine bears_of_layout rfl (.onlyText ?_)
  have last := holds_aliasText_plain ha
  unfold tableOfName? at ht
  split at ht <;> cases ht
  · exact (holds_quoteIdent _).after.append last
  · exact ((holds_quoteIdent _).before.append (holds_quoteIdent _)).append last

-- The columns of a join, if each is named by one word.
theorem exists_idents {names : List Name} {columns : List String}
    (h : usingColumns? names = some columns) :
    ∃ ids : List Ident, names.flatMap nameWords = nameWords ids ∧
      columns = ids.map Ident.folded := by
  induction names generalizing columns
  case nil =>
    cases h
    exact ⟨[], rfl, rfl⟩
  case cons name names hi =>
    simp only [usingColumns?, List.mapM_cons, Option.bind_eq_bind, Option.bind_eq_some_iff,
      Option.pure_def, Option.some.injEq] at h
    obtain ⟨column, hc, rest, hr, rfl⟩ := h
    have ⟨ids, hw, hf⟩ := hi hr
    split at hc <;> cases hc
    rename_i id
    exact ⟨id :: ids, by simp [hw, nameWords], by simp [hf]⟩

theorem bears_join (kind : JoinKind) (natural : Bool) (columns : List String) (hl : l.Bears as)
    (hr : r.Bears bs) (hc : c.Bears ws) :
    (Node.join ⟨kind, natural, l, r, columns, some c⟩).Bears (as ++ bs ++ ws) :=
  bears_of_layout rfl (.append (.part hl (.word _ (.onlyPart hr))) (.word _ (.onlyPart hc)))

theorem bears_join_using (kind : JoinKind) (natural : Bool) (ids : List Ident) (hl : l.Bears as)
    (hr : r.Bears bs) :
    (Node.join ⟨kind, natural, l, r, ids.map Ident.folded, none⟩).Bears
      (as ++ bs ++ nameWords ids) := by
  refine bears_of_layout rfl (.append (.part hl (.word _ (.onlyPart hr))) ?_)
  cases ids
  case nil => exact .nil
  case cons => exact .onlyText (holds_quoteIdents _).after.before.after

-- The order of a call stands between its parentheses or in parentheses of its own.
theorem AllBear.callOrder (h : AllBear ns ws) (withinGroup : Bool) (args : Layout) :
    Layout.Bears (callOrder withinGroup args (Layout.all? ns)) ws := by
  cases h
  case nil => exact .word _ .nil
  case cons hn hr =>
    have order := (cons hn hr).all.before ")"
    cases withinGroup
    case false => exact .word _ (.word _ order)
    case true => exact .word _ order

-- Next to a star the arguments are not written.
theorem bears_call {q : Call Node} (hn : Holds as q.name) (ha : AllBear q.args bs)
    (ho : AllBear q.aggOrder cs) (hf : AllBear q.aggFilter.toList ds) :
    (Node.call q).Bears (as ++ (if q.star then [] else bs) ++ cs ++ ds) := by
  obtain ⟨name, args, order, filter, withinGroup, star, distinct⟩ := q
  have arguments : Layout.Bears (if star then [.text "*"] else all args)
      (if star then [] else bs) := by
    cases star
    case true => exact .word _ .nil
    case false => exact ha.all
  refine bears_of_layout rfl
    (.append (.append (.text hn.before.before arguments) (ho.callOrder _ _)) ?_)
  cases filter
  case none => exact hf.eq_nil ▸ .nil
  case some f => exact .word _ (.before (hf.parts .plain |>.separated "") _)

-- The words of a query, those of its body and of each clause around the body apart: the node of a
-- query can get further clauses around the same body.
structure SelectBears (q : SqlLens.Select Node) (ctes body order limit offset : List Atom) :
    Prop where
  body   : ∃ ls, body? q = some ls ∧ BearsIn ls body
  ctes   : AllBear q.withClause.toList ctes
  order  : AllBear q.sortClause order
  limit  : AllBear q.limitCount.toList limit
  offset : AllBear q.limitOffset.toList offset

variable {q : SqlLens.Select Node}

theorem SelectBears.bears (h : SelectBears q as bs cs ds es) :
    (select q).Bears (as ++ bs ++ cs ++ ds ++ es) := by
  have ⟨ls, body, words⟩ := h.body
  have layout : (select q).layout? = some (separated " " ((part? q.withClause).toList ++ ls ++
      clause "ORDER BY" (all? q.sortClause) ++ clause "LIMIT" (part? q.limitCount) ++
      clause "OFFSET" (part? q.limitOffset))) := by
    rw [layout?, select?, body, Option.map_some]
  exact bears_of_layout layout ((h.ctes.part?.append words).append (h.order.all?.clause _)
    |>.append (h.limit.part?.clause _) |>.append (h.offset.part?.clause _) |>.separated " ")

-- Clauses around a body add their words to those of the body's own node.
theorem SelectBears.onto? {q' : SqlLens.Select Node} {x : Attached}
    (h : SelectBears q as bs cs ds es) (e : x.onto? q = some q')
    (hw : AllBear x.withClause.toList as') (ho : AllBear x.sortClause cs')
    (hl : AllBear x.limitCount.toList ds') (hf : AllBear x.limitOffset.toList es') :
    SelectBears q' (as' ++ as) bs (cs' ++ cs) (ds' ++ ds) (es' ++ es) := by
  unfold Attached.onto? at e
  split at e <;> cases e
  rename_i apart
  simp only [Bool.not_eq_true, Bool.or_eq_false_iff, Bool.and_eq_false_iff,
    Option.isSome_eq_false_iff, Option.isNone_iff_eq_none, Bool.not_eq_false'] at apart
  obtain ⟨⟨ctes, order⟩, limits⟩ := apart
  simp only [Attached.hasLimit, Bool.or_eq_false_iff, Option.isSome_eq_false_iff,
    Option.isNone_iff_eq_none] at limits
  refine ⟨h.body, hw.either h.ctes ?_, ho.either h.order ?_, hl.either h.limit ?_,
    hf.either h.offset ?_⟩
  · obtain none | none := ctes <;> simp [none]
  · obtain none | none := order <;> rw [List.isEmpty_iff] at none <;> simp [none]
  · obtain ⟨none, none'⟩ | ⟨none, none'⟩ := limits <;> simp [none, none', Attached.hasLimit]
    cases x.limitCount <;> cases x.limitOffset <;> simp
  · obtain ⟨none, none'⟩ | ⟨none, none'⟩ := limits <;> simp [none, none', Attached.hasLimit]
    cases x.limitCount <;> cases x.limitOffset <;> simp

theorem selectBears_arms (op : SetOp) (all : Bool) (ho : op ≠ .none) (hl : l.Bears as)
    (hr : r.Bears bs) :
    SelectBears { op := op, all := all, larg := some l, rarg := some r } [] (as ++ bs) [] [] [] :=
  ⟨⟨_, body?_of_arms ho rfl rfl, .cons (.onlyPart hl) (.cons (.word _ .nil) (.one (.onlyPart hr)))⟩,
    .nil, .nil, .nil, .nil⟩

theorem bears_selectWord {distinct : Bool} (hd : distinct ∨ ns = []) (h : AllBear ns ws) :
    Layout.Bears (selectWord distinct (all? ns)) ws := by
  cases h
  case nil => exact .word _ .nil
  case cons hn hr =>
    cases distinct
    case false => simp at hd
    case true => exact .word _ (AllBear.cons hn hr).all.parens

theorem selectBears_plain {distinct : Bool} {on targets sources groups : List Node}
    {cond having : Option Node} (hd : distinct ∨ on = []) (ho : AllBear on as)
    (ht : AllBear targets bs) (hs : AllBear sources cs) (hc : AllBear cond.toList ds)
    (hg : AllBear groups es) (hh : AllBear having.toList ws) :
    SelectBears {
        distinct := distinct
        distinctClause := on
        targetList := targets
        fromClause := sources
        whereClause := cond
        groupClause := groups
        havingClause := having }
      [] (as ++ bs ++ cs ++ ds ++ es ++ ws) [] [] [] := by
  refine ⟨⟨_, body?_of_op_none rfl, ?_⟩, .nil, .nil, .nil, .nil⟩
  exact (BearsIn.one (bears_selectWord hd ho)).append ht.all? |>.append (hs.all?.clause _)
    |>.append (hc.part?.clause _) |>.append (hg.all?.clause _) |>.append (hh.part?.clause _)

theorem bears_update {targets sources : List Node} {cond : Option Node} (hr : r.Bears as)
    (ht : AllBear targets bs) (hs : AllBear sources cs) (hc : AllBear cond.toList ds) :
    (update ⟨r, targets, sources, cond⟩).Bears (as ++ bs ++ cs ++ ds) := by
  have assignments := (ht.parts .assignment).separated ", "
  have head := BearsIn.cons (.word "UPDATE" .nil)
    (.cons (.onlyPart (m := .plain) hr) (.cons (.word "SET" .nil) (.one assignments)))
  exact bears_of_layout rfl
    ((head.append (hs.all?.clause _)).append (hc.part?.clause _) |>.separated " ")

theorem bears_delete {cond : Option Node} (hr : r.Bears as) (hc : AllBear cond.toList bs) :
    (delete ⟨r, cond⟩).Bears (as ++ bs) :=
  bears_of_layout rfl
    ((BearsIn.one (.word _ (.onlyPart hr))).append (hc.part?.clause _) |>.separated " ")

theorem bears_insert {cols : List Node} {source : Option Node} (hr : r.Bears as)
    (hc : AllBear cols bs) (hs : AllBear source.toList cs) :
    (insert ⟨r, cols, source⟩).Bears (as ++ bs ++ cs) := by
  refine bears_of_layout rfl
    (.append (.append (.word _ (.onlyPart hr)) ?columns) (.word _ ?source))
  case columns =>
    cases hc
    case nil => exact .nil
    case cons hn hr => exact .word _ (AllBear.cons hn hr).all.parens
  case source =>
    cases source
    case none => exact hs.eq_nil ▸ .word _ .nil
    case some n => exact (hs.parts .plain).separated ""

end Node

end SqlLens
