import SqlLens.Node.Sql
import SqlLens.Render.Basic

namespace SqlLens.Sql

-- How a name can be written: as it was spelled, or as a server sees it.
def Ident.spellings (id : Ident) : List String :=
  [id.toText, Render.quoteIdent id.folded, Render.columnField id.folded]

-- How a literal can be written. The mark of a long number can be left out.
def Literal.spellings : Literal → List String
  | .number digits long => [(Literal.number digits long).toText, digits]
  | .string text => [(Literal.string text).toText, Render.quoteString text]
  | l => [l.toText]

def Atom.spellings : Atom → List String
  | .text s => [s]
  | .name id => id.spellings
  | .literal l => l.spellings

-- The words stand in the text in this order, each at a place of its own.
inductive InOrder : List Atom → String → Prop
  | nil : InOrder [] s
  | cons : t ∈ Atom.spellings w → InOrder ws s → InOrder (w :: ws) (pre ++ t ++ s)

-- The words stand in the text, each at a place of its own.
def Holds (ws : List Atom) (s : String) : Prop := ∃ vs, vs.Perm ws ∧ InOrder vs s

-- The words stand in the texts, those of each text together.
inductive HoldsIn : List Atom → List String → Prop
  | nil : HoldsIn [] []
  | cons : Holds ws s → HoldsIn vs ss → HoldsIn (ws ++ vs) (s :: ss)

variable {ws vs : List Atom} {s t : String} {w : Atom}

theorem InOrder.after (h : InOrder ws s) : InOrder ws (t ++ s) := by
  cases h
  case nil => exact .nil
  case cons ht rest =>
    rw [← String.append_assoc, ← String.append_assoc]
    exact .cons ht rest

theorem InOrder.append (h : InOrder ws s) (h' : InOrder vs t) : InOrder (ws ++ vs) (s ++ t) := by
  induction h
  case nil => exact h'.after
  case cons ht _ hi =>
    rw [String.append_assoc]
    exact .cons ht hi

namespace Holds

theorem nil : Holds [] s := ⟨[], .nil, .nil⟩

theorem single (h : s ∈ w.spellings) : Holds [w] s := by
  have : InOrder [w] ("" ++ s ++ "") := .cons h .nil
  exact ⟨[w], .rfl, by simpa using this⟩

theorem append (h : Holds ws s) (h' : Holds vs t) : Holds (ws ++ vs) (s ++ t) := by
  obtain ⟨us, hp, h⟩ := h
  obtain ⟨us', hp', h'⟩ := h'
  exact ⟨us ++ us', hp.append hp', h.append h'⟩

-- With a text behind it.
theorem before (h : Holds ws s) : Holds ws (s ++ t) := by simpa using h.append nil

-- With a text in front of it.
theorem after (h : Holds ws s) : Holds ws (t ++ s) := by simpa using nil.append h

theorem perm (h : Holds ws s) (hp : ws.Perm vs) : Holds vs s := by
  obtain ⟨us, hu, h⟩ := h
  exact ⟨us, hu.trans hp, h⟩

-- Each of the words stands somewhere in the text.
theorem exists_spelling (h : Holds ws s) (hw : w ∈ ws) :
    ∃ t ∈ w.spellings, ∃ pre post, s = pre ++ t ++ post := by
  obtain ⟨us, hp, h⟩ := h
  have hw := hp.mem_iff.mpr hw
  clear hp
  induction h
  case nil => cases hw
  case cons ht _ hi =>
    obtain rfl | hw := List.mem_cons.mp hw
    · exact ⟨_, ht, _, _, rfl⟩
    · have ⟨t', ht', pre', post, e⟩ := hi hw
      exact ⟨t', ht', _, post, by rw [e, ← String.append_assoc, ← String.append_assoc]⟩

end Holds

namespace HoldsIn

variable {ss ts : List String}

theorem one (h : Holds ws s) : HoldsIn ws [s] := by simpa using cons h nil

theorem append (h : HoldsIn ws ss) (h' : HoldsIn vs ts) : HoldsIn (ws ++ vs) (ss ++ ts) := by
  induction h
  case nil => exact h'
  case cons hs _ hi => simpa [List.append_assoc] using cons hs hi

theorem eq_nil (h : HoldsIn ws []) : ws = [] := by
  cases h
  rfl

theorem intercalate (sep : String) (h : HoldsIn ws ss) : Holds ws (sep.intercalate ss) := by
  induction h
  case nil => exact .nil
  case cons ss hs hr hi =>
    cases ss
    case nil => simpa [hr.eq_nil] using hs
    case cons =>
      simpa [String.intercalate_cons_of_ne_nil, String.append_assoc] using hs.append hi.after

-- Empty texts hold their words anywhere.
theorem intercalate_filter (sep : String) (h : HoldsIn ws ss) :
    Holds ws (sep.intercalate (ss.filter (!·.isEmpty))) := by
  induction h
  case nil => exact .nil
  case cons s _ ss hs _ hi =>
    by_cases empty : s.isEmpty
    case pos =>
      cases String.isEmpty_iff.mp empty
      simpa using hs.append hi
    case neg =>
      rw [List.filter_cons_of_pos (by simpa using empty)]
      cases rest : ss.filter (!·.isEmpty) <;> rw [rest] at hi
      case nil => simpa using hs.append hi
      case cons =>
        simpa [String.intercalate_cons_of_ne_nil, String.append_assoc] using hs.append hi.after

theorem commas (h : HoldsIn ws ss) : Holds ws (commas ss) := h.intercalate ", "

theorem listClause (keyword : String) (h : HoldsIn ws ss) : Holds ws (listClause keyword ss) := by
  cases h
  case nil => exact .nil
  case cons hs hr => exact (cons hs hr).commas.after

theorem inParens (h : HoldsIn ws ss) : Holds ws (inParens ss) := by
  cases h
  case nil => exact .nil
  case cons hs hr => exact (cons hs hr).commas.after.before

theorem withinText (h : HoldsIn ws ss) : Holds ws (withinText ss) := by
  cases h
  case nil => exact .nil
  case cons hs hr => exact (cons hs hr).commas.after.before

-- The sources of a query stand in one of two places.
theorem selectHead (h : HoldsIn ws ss) (fromFirst : Option Bool) :
    Holds (if fromFirst.isSome then ws else []) (selectHead (Sql.commas ss) fromFirst) :=
  match fromFirst with
  | none => .nil
  | some true => h.commas.after.before
  | some false => h.commas.after

theorem fromText (h : HoldsIn ws ss) (fromFirst : Option Bool) :
    Holds (if fromFirst.isSome then [] else ws) (fromText fromFirst ss) := by
  cases fromFirst
  case none => exact h.listClause " FROM "
  case some => exact .nil

end HoldsIn

def nameWords (n : Name) : List Atom := n.map .name

theorem nameWords_eq_flatMap (n : Name) : nameWords n = n.flatMap fun id => [.name id] :=
  List.map_eq_flatMap

def AliasColumn.words (c : AliasColumn) : List Atom := .name c.name :: c.type.getD []

def aliasWords : Option Alias → List Atom
  | none => []
  | some a => .name a.name :: a.columns.flatMap AliasColumn.words

-- Whether a construct is kept as text.
def isKeptAsText : Node → Bool
  | .other _ => true
  | _ => false

-- The words of parsed SQL. `stars` says whether what belongs to a star counts: its options, and the
-- arguments next to it. Inside of a construct that is kept as text it always does.
mutual

def Piece.words : Piece → List Atom
  | .atom a => [a]
  | .expr e => e.words true
  | .query q => q.words true
  | .source s => s.words true

def phraseWords : List Piece → List Atom
  | [] => []
  | p :: ps => p.words ++ phraseWords ps

def Expr.words : Bool → Expr → List Atom
  | _, .ident id => [.name id]
  | _, .compound first rest => nameWords (first :: rest)
  | stars, .binary l _ r => l.words stars ++ r.words stars
  | stars, .unary _ e => e.words stars
  | stars, .nested e => e.words stars
  | stars, .isNull e _ => e.words stars
  | stars, .inList e items _ => e.words stars ++ exprWords stars items
  | stars, .inQuery e q _ => e.words stars ++ q.words stars
  | stars, .between e _ low high => e.words stars ++ low.words stars ++ high.words stars
  | stars, .like _ _ any e pattern escape =>
    let stars := stars || any || escape.isSome
    e.words stars ++ pattern.words stars ++ escape.toList.map .literal
  | stars, .exists q _ => q.words stars
  | stars, .subquery q => q.words stars
  | stars, .compareAny l _ r _ => l.words stars ++ r.words stars
  | stars, .compareAll l _ r => l.words stars ++ r.words stars
  | stars, .tuple items => exprWords stars items
  | _, .literal l => [.literal l]
  | stars, .call f => f.words stars
  | _, .access root links => root.words true ++ phraseWords links
  | _, .phrase pieces => phraseWords pieces

def exprWords : Bool → List Expr → List Atom
  | _, [] => []
  | stars, e :: es => e.words stars ++ exprWords stars es

def exprWords? : Bool → Option Expr → List Atom
  | _, none => []
  | stars, some e => e.words stars

def Function.words : Bool → Function → List Atom
  | stars, ⟨name, odbc, params, args, within, filter, tail⟩ =>
    let f : Function := ⟨name, odbc, params, args, within, filter, tail⟩
    let stars := stars || isKeptAsText f.toNode
    nameWords name ++ phraseWords params ++ args.words stars ++ orderWords stars within ++
      exprWords? stars filter ++ phraseWords tail

def Arguments.words : Bool → Arguments → List Atom
  | _, .none => []
  | stars, .query q => q.words stars
  | stars, .list l => l.words stars

def ArgumentList.words : Bool → ArgumentList → List Atom
  | stars, ⟨_, args, before, order, after⟩ =>
    (if stars || !args.any Item.isStar then argumentWords stars args else []) ++
      phraseWords before ++ orderWords stars order ++ phraseWords after

def argumentWords : Bool → List Item → List Atom
  | _, [] => []
  | stars, .expr e :: is => e.words stars ++ argumentWords stars is
  | stars, .aliased e as_ :: is => e.words true ++ [.name as_] ++ argumentWords stars is
  | stars, .star options :: is =>
    (if stars then phraseWords options else []) ++ argumentWords stars is
  | stars, .phrase pieces :: is => phraseWords pieces ++ argumentWords stars is

def Item.words : Bool → Item → List Atom
  | stars, .expr e => e.words stars
  | stars, .aliased e as_ => e.words stars ++ [.name as_]
  | stars, .star options => if stars then phraseWords options else []
  | _, .phrase pieces => phraseWords pieces

def itemWords : Bool → List Item → List Atom
  | _, [] => []
  | stars, i :: is => i.words stars ++ itemWords stars is

def OrderItem.words : Bool → OrderItem → List Atom
  | stars, ⟨e, _, _, fill⟩ => e.words (stars || !fill.isEmpty) ++ phraseWords fill

def orderWords : Bool → List OrderItem → List Atom
  | _, [] => []
  | stars, i :: is => i.words stars ++ orderWords stars is

def OrderBy.words : Bool → OrderBy → List Atom
  | stars, .items is => orderWords stars is
  | _, .all pieces => phraseWords pieces

def Limits.words : Bool → Limits → List Atom
  | stars, .plain limit offset _ by_ =>
    exprWords? stars limit ++ exprWords? stars offset ++ exprWords stars by_
  | stars, .comma offset limit => offset.words stars ++ limit.words stars

def Query.words : Bool → Query → List Atom
  | stars, ⟨recursive, ctes, body, order, interpolate, limits, rest⟩ =>
    let q : Query := ⟨recursive, ctes, body, order, interpolate, limits, rest⟩
    let stars := stars || isKeptAsText q.toNode
    cteWords stars ctes ++ body.words stars ++ order.words stars ++ phraseWords interpolate ++
      limits.words stars ++ phraseWords rest

def Cte.words : Bool → Cte → List Atom
  | stars, ⟨name, columns, materialized, query, from_⟩ =>
    let c : Cte := ⟨name, columns, materialized, query, from_⟩
    [.name name] ++ columns.flatMap AliasColumn.words ++ query.words (stars || !c.fits) ++
      from_.toList.map .name

def cteWords : Bool → List Cte → List Atom
  | _, [] => []
  | stars, c :: cs => c.words stars ++ cteWords stars cs

def Body.words : Bool → Body → List Atom
  | stars, .select s => s.words stars
  | stars, .query q => q.words stars
  | stars, .setOperation _ quantifier l r =>
    let stars := stars || quantifier.byName?
    l.words stars ++ r.words stars
  | _, .phrase pieces => phraseWords pieces

def Distinct.words : Bool → Distinct → List Atom
  | _, .none => []
  | _, .plain => []
  | stars, .on es => exprWords stars es

def Select.words : Bool → Select → List Atom
  | stars, ⟨fromFirst, lead, distinct, top, items, afterItems, from_, afterFrom, cond, groupAll,
      groups, modifiers, afterGroup, having, tail⟩ =>
    let s : Select := ⟨fromFirst, lead, distinct, top, items, afterItems, from_, afterFrom, cond,
      groupAll, groups, modifiers, afterGroup, having, tail⟩
    let stars := stars || !s.fits
    phraseWords lead ++ distinct.words stars ++ phraseWords top ++ itemWords stars items ++
      phraseWords afterItems ++ sourceWords stars from_ ++ phraseWords afterFrom ++
      exprWords? stars cond ++ exprWords stars groups ++ phraseWords modifiers ++
      phraseWords afterGroup ++ exprWords? stars having ++ phraseWords tail

def Source.words : Bool → Source → List Atom
  | _, .table name middle as_ after =>
    nameWords name ++ phraseWords middle ++ aliasWords as_ ++ phraseWords after
  | stars, .derived _ q as_ => q.words (stars || !Alias.plain as_) ++ aliasWords as_
  | stars, .nested s as_ => s.words (stars || as_.isSome) ++ aliasWords as_
  | stars, .join l global operator r constraint =>
    let stars := stars || isKeptAsText (Source.join l global operator r constraint).toNode
    l.words stars ++ r.words stars ++ constraint.words stars
  | _, .asof l _ r matching constraint =>
    l.words true ++ r.words true ++ phraseWords matching ++ constraint.words true
  | _, .phrase pieces => phraseWords pieces

def JoinConstraint.words : Bool → JoinConstraint → List Atom
  | _, .none => []
  | _, .natural => []
  | stars, .on e => e.words stars
  | _, .columns names => names.flatMap nameWords

def sourceWords : Bool → List Source → List Atom
  | _, [] => []
  | stars, s :: ss => s.words stars ++ sourceWords stars ss

end

theorem Ident.holds_toText (id : Ident) : Holds [.name id] id.toText :=
  .single (by simp [Atom.spellings, Ident.spellings])

theorem Literal.holds_toText (l : Literal) : Holds [.literal l] l.toText :=
  .single (by cases l <;> simp [Atom.spellings, Literal.spellings])

theorem Atom.holds_toText : (a : Atom) → Holds [a] a.toText
  | .text s => .single (by simp [Atom.spellings, Atom.toText])
  | .name id => id.holds_toText
  | .literal l => l.holds_toText

theorem holdsIn_map {f : α → List Atom} {g : α → String} (h : ∀ a, Holds (f a) (g a))
    (as : List α) : HoldsIn (as.flatMap f) (as.map g) := by
  induction as
  case nil => exact .nil
  case cons a as hi => exact .cons (h a) hi

theorem holds_nameText (n : Name) : Holds (nameWords n) (nameText n) := by
  rw [nameWords_eq_flatMap]
  exact (holdsIn_map Ident.holds_toText n).intercalate "."

theorem DataType.holds_toText (t : DataType) : Holds t (DataType.toText t) := by
  induction t
  case nil => exact .nil
  case cons a t hi => simpa [DataType.toText] using a.holds_toText.append hi

theorem AliasColumn.holds_toText (c : AliasColumn) : Holds c.words c.toText := by
  obtain ⟨name, _ | type⟩ := c
  case none => exact name.holds_toText.before
  case some => exact name.holds_toText.append (DataType.holds_toText type).after

theorem holds_aliasText : (a : Option Alias) → Holds (aliasWords a) (aliasText a)
  | none => .nil
  | some a => (a.name.holds_toText.after.append
      (holdsIn_map AliasColumn.holds_toText a.columns).inParens).after

theorem holds_quantified (e : Expr) (h : Holds ws s) : Holds ws (quantified e s) := by
  unfold quantified
  split
  · exact h
  · exact h.after.before

mutual

theorem Piece.holds_toText : (p : Piece) → Holds p.words p.toText
  | .atom a => a.holds_toText
  | .expr e => e.holds_toText true
  | .query q => q.holds_toText true
  | .source s => s.holds_toText true

theorem holds_phraseText : (ps : List Piece) → Holds (phraseWords ps) (phraseText ps)
  | [] => .nil
  | p :: ps => p.holds_toText.append (holds_phraseText ps)

theorem Expr.holds_toText : (stars : Bool) → (e : Expr) → Holds (e.words stars) e.toText
  | _, .ident id => id.holds_toText
  | _, .compound first rest => holds_nameText (first :: rest)
  | stars, .binary l op r =>
    (l.holds_toText stars).before.before.before.append (r.holds_toText stars)
  | stars, .unary op e => by
    have := e.holds_toText stars
    rw [Expr.toText]
    split
    · exact this.before
    · split <;> exact this.after
  | stars, .nested e => (e.holds_toText stars).after.before
  | stars, .isNull e negated => (e.holds_toText stars).before
  | stars, .inList e items negated =>
    ((e.holds_toText stars).before.append (holdsIn_exprTexts stars items).commas).before
  | stars, .inQuery e q negated =>
    ((e.holds_toText stars).before.append (q.holds_toText stars)).before
  | stars, .between e negated low high =>
    ((e.holds_toText stars).before.append (low.holds_toText stars)).before.append
      (high.holds_toText stars)
  | stars, .like caseless negated any e pattern none =>
    ((e.holds_toText _).before.before.before.before.append (pattern.holds_toText _)).append .nil
  | stars, .like caseless negated any e pattern (some l) =>
    ((e.holds_toText _).before.before.before.before.append (pattern.holds_toText _)).append
      l.holds_toText.after
  | stars, .exists q negated => (q.holds_toText stars).after.before
  | stars, .subquery q => (q.holds_toText stars).after.before
  | stars, .compareAny l op r isSome =>
    (l.holds_toText stars).before.before.before.append (holds_quantified r (r.holds_toText stars))
  | stars, .compareAll l op r =>
    (l.holds_toText stars).before.before.before.append (holds_quantified r (r.holds_toText stars))
  | stars, .tuple items => (holdsIn_exprTexts stars items).commas.after.before
  | _, .literal l => l.holds_toText
  | stars, .call f => f.holds_toText stars
  | _, .access root links => (root.holds_toText true).append (holds_phraseText links)
  | _, .phrase pieces => holds_phraseText pieces

theorem holdsIn_exprTexts :
    (stars : Bool) → (es : List Expr) → HoldsIn (exprWords stars es) (exprTexts es)
  | _, [] => .nil
  | stars, e :: es => .cons (e.holds_toText stars) (holdsIn_exprTexts stars es)

theorem holds_optionText :
    (stars : Bool) → (before : String) → (e : Option Expr) →
      Holds (exprWords? stars e) (optionText before e)
  | _, _, none => .nil
  | stars, _, some e => (e.holds_toText stars).after

theorem Function.holds_toText : (stars : Bool) → (f : Function) → Holds (f.words stars) f.toText
  | _, ⟨name, _, params, args, within, filter, tail⟩ =>
    ((((((holds_nameText name).after.append (holds_phraseText params)).append
      (args.holds_toText _)).append (holdsIn_orderTexts _ within).withinText).append
      (holds_optionText _ _ filter)).before.append (holds_phraseText tail)).before

theorem Arguments.holds_toText : (stars : Bool) → (a : Arguments) → Holds (a.words stars) a.toText
  | _, .none => .nil
  | stars, .query q => (q.holds_toText stars).after.before
  | stars, .list l => (l.holds_toText stars).after.before

theorem ArgumentList.holds_toText :
    (stars : Bool) → (l : ArgumentList) → Holds (l.words stars) l.toText
  | stars, ⟨distinct, args, before, order, after⟩ => by
    have args : Holds (if stars || !args.any Item.isStar then argumentWords stars args else [])
        (commas (itemTexts args)) := by
      split
      · exact (holdsIn_argumentTexts stars args).commas
      · exact .nil
    have all := HoldsIn.cons args (.cons (holds_phraseText before)
      (.cons ((holdsIn_orderTexts stars order).listClause "ORDER BY ")
        (.one (holds_phraseText after))))
    simpa [ArgumentList.words, ArgumentList.toText, List.append_assoc] using
      (all.intercalate_filter " ").after

theorem holdsIn_argumentTexts :
    (stars : Bool) → (is : List Item) → HoldsIn (argumentWords stars is) (itemTexts is)
  | _, [] => .nil
  | stars, .expr e :: is => .cons (e.holds_toText stars) (holdsIn_argumentTexts stars is)
  | stars, .aliased e as_ :: is =>
    .cons ((e.holds_toText true).before.append as_.holds_toText) (holdsIn_argumentTexts stars is)
  | stars, .star options :: is => by
    rw [argumentWords, itemTexts, Item.toText]
    refine .cons ?_ (holdsIn_argumentTexts stars is)
    split
    · exact (holds_phraseText options).after
    · exact .nil
  | stars, .phrase pieces :: is => .cons (holds_phraseText pieces) (holdsIn_argumentTexts stars is)

theorem Item.holds_toText : (stars : Bool) → (i : Item) → Holds (i.words stars) i.toText
  | stars, .expr e => e.holds_toText stars
  | stars, .aliased e as_ => (e.holds_toText stars).before.append as_.holds_toText
  | stars, .star options => by
    rw [Item.words, Item.toText]
    split
    · exact (holds_phraseText options).after
    · exact .nil
  | _, .phrase pieces => holds_phraseText pieces

theorem holdsIn_itemTexts :
    (stars : Bool) → (is : List Item) → HoldsIn (itemWords stars is) (itemTexts is)
  | _, [] => .nil
  | stars, i :: is => .cons (i.holds_toText stars) (holdsIn_itemTexts stars is)

theorem OrderItem.holds_toText : (stars : Bool) → (i : OrderItem) → Holds (i.words stars) i.toText
  | _, ⟨e, _, _, fill⟩ => (e.holds_toText _).before.append (holds_phraseText fill)

theorem holdsIn_orderTexts :
    (stars : Bool) → (is : List OrderItem) → HoldsIn (orderWords stars is) (orderTexts is)
  | _, [] => .nil
  | stars, i :: is => .cons (i.holds_toText stars) (holdsIn_orderTexts stars is)

theorem OrderBy.holds_toText : (stars : Bool) → (o : OrderBy) → Holds (o.words stars) o.toText
  | stars, .items is => (holdsIn_orderTexts stars is).listClause " ORDER BY "
  | _, .all pieces => (holds_phraseText pieces).after

theorem Limits.holds_toText : (stars : Bool) → (l : Limits) → Holds (l.words stars) l.toText
  | stars, .plain limit offset _ by_ =>
    ((holds_optionText stars " LIMIT " limit).append
      (holds_optionText stars " OFFSET " offset)).before.append
        ((holdsIn_exprTexts stars by_).listClause " BY ")
  | stars, .comma offset limit =>
    (offset.holds_toText stars).after.before.append (limit.holds_toText stars)

theorem Query.holds_toText : (stars : Bool) → (q : Query) → Holds (q.words stars) q.toText
  | _, ⟨_, ctes, body, order, interpolate, limits, rest⟩ =>
    ((holdsIn_cteTexts _ ctes).listClause _).before.append (body.holds_toText _)
      |>.append (order.holds_toText _) |>.append (holds_phraseText interpolate)
      |>.append (limits.holds_toText _) |>.append (holds_phraseText rest)

theorem Cte.holds_toText : (stars : Bool) → (c : Cte) → Holds (c.words stars) c.toText
  | _, ⟨name, columns, materialized, query, from_⟩ => by
    have from_ : Holds (from_.toList.map .name) (match from_ with
        | some id => " FROM " ++ id.toText
        | none => "") := by
      cases from_
      case none => exact .nil
      case some id => exact id.holds_toText.after
    have head := name.holds_toText.append (holdsIn_map AliasColumn.holds_toText columns).inParens
    exact ((head.before.before.before.append (query.holds_toText _)).before.append from_)

theorem holdsIn_cteTexts :
    (stars : Bool) → (cs : List Cte) → HoldsIn (cteWords stars cs) (cteTexts cs)
  | _, [] => .nil
  | stars, c :: cs => .cons (c.holds_toText stars) (holdsIn_cteTexts stars cs)

theorem Body.holds_toText : (stars : Bool) → (b : Body) → Holds (b.words stars) b.toText
  | stars, .select s => s.holds_toText stars
  | stars, .query q => (q.holds_toText stars).after.before
  | _, .setOperation _ _ l r =>
    (l.holds_toText _).before.before.before.before.append (r.holds_toText _)
  | _, .phrase pieces => holds_phraseText pieces

theorem Distinct.holds_toText : (stars : Bool) → (d : Distinct) → Holds (d.words stars) d.toText
  | _, .none => .nil
  | _, .plain => .nil
  | stars, .on es => (holdsIn_exprTexts stars es).commas.after.before

theorem Select.holds_toText : (stars : Bool) → (s : Select) → Holds (s.words stars) s.toText
  | stars, ⟨fromFirst, lead, distinct, top, items, afterItems, from_, afterFrom, cond, groupAll,
      groups, modifiers, afterGroup, having, tail⟩ => by
    rw [Select.words, Select.toText]
    generalize (stars || !Select.fits _) = stars
    have sources := holdsIn_sourceTexts stars from_
    have items := (sources.selectHead fromFirst).append (holds_phraseText lead)
      |>.append (distinct.holds_toText stars) |>.append (holds_phraseText top)
      |>.append ((holdsIn_itemTexts stars items).listClause " ")
      |>.append (holds_phraseText afterItems)
    have groups := (items.append (sources.fromText fromFirst)).append (holds_phraseText afterFrom)
      |>.append (holds_optionText stars " WHERE " cond)
      |>.before (t := if groupAll then " GROUP BY ALL" else "")
      |>.append ((holdsIn_exprTexts stars groups).listClause " GROUP BY ")
      |>.append (holds_phraseText modifiers) |>.append (holds_phraseText afterGroup)
    have all := (groups.append (holds_optionText stars " HAVING " having)).append
      (holds_phraseText tail)
    refine all.perm ?_
    cases fromFirst
    case none => simp
    case some =>
      rw [List.perm_iff_count]
      intro w
      simp
      omega

theorem Source.holds_toText : (stars : Bool) → (s : Source) → Holds (s.words stars) s.toText
  | _, .table name middle as_ after =>
    (((holds_nameText name).append (holds_phraseText middle)).append (holds_aliasText as_)).append
      (holds_phraseText after)
  | _, .derived _ q as_ => (q.holds_toText _).after.before.append (holds_aliasText as_)
  | _, .nested s as_ => (s.holds_toText _).after.before.append (holds_aliasText as_)
  | _, .join l _ _ r constraint =>
    ((l.holds_toText _).before.before.before.before.before.append (r.holds_toText _)).append
      (constraint.holds_toText _)
  | _, .asof l _ r matching constraint =>
    (((l.holds_toText true).before.before.before.append (r.holds_toText true)).append
      (holds_phraseText matching)).append (constraint.holds_toText true)
  | _, .phrase pieces => holds_phraseText pieces

theorem JoinConstraint.holds_toText :
    (stars : Bool) → (c : JoinConstraint) → Holds (c.words stars) c.toText
  | _, .none => .nil
  | _, .natural => .nil
  | stars, .on e => (e.holds_toText stars).after
  | _, .columns names => by
    rw [JoinConstraint.words, JoinConstraint.toText]
    split
    case isTrue h => simp [List.isEmpty_iff.mp h, Holds.nil]
    case isFalse => exact (holdsIn_map holds_nameText names).commas.after.before

theorem holdsIn_sourceTexts :
    (stars : Bool) → (ss : List Source) → HoldsIn (sourceWords stars ss) (sourceTexts ss)
  | _, [] => .nil
  | stars, s :: ss => .cons (s.holds_toText stars) (holdsIn_sourceTexts stars ss)

end

def AssignmentTarget.words : AssignmentTarget → List Atom
  | .name n => nameWords n
  | .tuple ns => ns.flatMap nameWords

def Assignment.words (stars : Bool) (a : Assignment) : List Atom :=
  a.target.words ++ a.value.words stars

-- The words of the source, or of what stands in its place.
def Insert.rowWords (stars : Bool) (i : Insert) : List Atom :=
  match i.source with
  | some q => q.words stars
  | none => phraseWords i.values

def Insert.words (stars : Bool) (i : Insert) : List Atom :=
  nameWords i.table ++ phraseWords i.target ++ nameWords i.as_.toList ++ nameWords i.columns ++
    phraseWords i.middle ++ i.rowWords (stars || isKeptAsText i.toNode) ++ phraseWords i.tail

def Update.words (stars : Bool) (u : Update) : List Atom :=
  let stars := stars || isKeptAsText u.toNode
  u.table.words stars ++ sourceWords stars u.fromBefore ++
    u.assignments.flatMap (Assignment.words stars) ++ sourceWords stars u.fromAfter ++
    exprWords? stars u.cond ++ phraseWords u.tail

def Delete.words (stars : Bool) (d : Delete) : List Atom :=
  let stars := stars || isKeptAsText d.toNode
  d.tables.flatMap nameWords ++ sourceWords stars d.from_ ++ sourceWords stars d.using_ ++
    exprWords? stars d.cond ++ phraseWords d.tail

def Statement.words (stars : Bool) : Statement → List Atom
  | .query q => q.words stars
  | .insert i => i.words stars
  | .update u => u.words stars
  | .delete d => d.words stars
  | .phrase pieces => phraseWords pieces

theorem phraseText_singleton (p : Piece) : phraseText [p] = p.toText := by simp [phraseText]

theorem phraseText_append (ps qs : List Piece) :
    phraseText (ps ++ qs) = phraseText ps ++ phraseText qs := by
  induction ps
  case nil => simp [phraseText]
  case cons p ps hi => simp [phraseText, hi, String.append_assoc]

section

variable {f : α → List Atom} {g : α → List Piece}

theorem holds_separated (h : ∀ a, Holds (f a) (phraseText (g a))) (separator : String)
    (as : List α) : Holds (as.flatMap f) (phraseText (Phrase.separated separator (as.map g))) := by
  induction as
  case nil => exact .nil
  case cons a as hi =>
    cases as
    case nil => simpa [Phrase.separated] using h a
    case cons =>
      simp only [List.map_cons, Phrase.separated, phraseText_append] at hi ⊢
      exact (h a).before.append hi

theorem holds_commas (h : ∀ a, Holds (f a) (phraseText (g a))) (as : List α) :
    Holds (as.flatMap f) (phraseText (Phrase.commas (as.map g))) :=
  holds_separated h ", " as

-- A list that stands behind a text, if it is not empty.
theorem holds_list {ps : List α → List Piece} (h : ∀ as, Holds (as.flatMap f) (phraseText (ps as)))
    (before : String) (as : List α) :
    Holds (as.flatMap f) (phraseText (Phrase.list before ps as)) := by
  cases as
  case nil => exact .nil
  case cons =>
    rw [Phrase.list, phraseText_append]
    · exact (h _).after
    · nofun

theorem holds_option (h : ∀ a, Holds (f a) (phraseText (g a)))
    (before : String) (o : Option α) :
    Holds (o.toList.flatMap f) (phraseText (Phrase.option before g o)) := by
  cases o
  case none => exact .nil
  case some a =>
    rw [Phrase.option, phraseText_append]
    simpa using (h a).after

end

theorem holds_ident (id : Ident) : Holds [.name id] (phraseText (Phrase.ident id)) := by
  rw [Phrase.ident, phraseText_singleton]
  exact id.holds_toText

theorem holds_name (n : Name) : Holds (nameWords n) (phraseText (Phrase.name n)) := by
  rw [nameWords_eq_flatMap]
  exact holds_separated holds_ident "." n

theorem holds_idents (ids : List Ident) :
    Holds (nameWords ids) (phraseText (Phrase.commas (ids.map Phrase.ident))) := by
  rw [nameWords_eq_flatMap]
  exact holds_commas holds_ident ids

theorem holds_names (ns : List Name) :
    Holds (ns.flatMap nameWords) (phraseText (Phrase.names ns)) :=
  holds_commas holds_name ns

section

variable (stars : Bool)

theorem sourceWords_eq_flatMap (ss : List Source) :
    sourceWords stars ss = ss.flatMap (Source.words stars) := by
  induction ss
  case nil => rfl
  case cons s ss hi => rw [sourceWords, hi, List.flatMap_cons]

theorem holds_sources (ss : List Source) :
    Holds (ss.flatMap (Source.words stars)) (phraseText (Phrase.sources ss)) := by
  refine holds_commas (fun s => ?_) ss
  rw [phraseText_singleton]
  exact s.holds_toText stars

theorem holds_condition (before : String) (e : Option Expr) :
    Holds (exprWords? stars e) (phraseText (Phrase.option before (fun e => [.expr e]) e)) := by
  cases e
  case none => exact .nil
  case some e =>
    rw [Phrase.option, phraseText_append, phraseText_singleton]
    exact (e.holds_toText stars).after

theorem AssignmentTarget.holds_pieces (t : AssignmentTarget) :
    Holds t.words (phraseText t.pieces) := by
  cases t
  case name n => exact holds_name n
  case tuple ns =>
    rw [pieces, Phrase.parens, phraseText_append, phraseText_append]
    exact (holds_names ns).after.before

theorem Assignment.holds_pieces (a : Assignment) : Holds (a.words stars) (phraseText a.pieces) := by
  rw [pieces, phraseText_append, phraseText_append, phraseText_singleton]
  exact a.target.holds_pieces.before.append (a.value.holds_toText stars)

theorem Insert.holds_pieces (i : Insert) : Holds (i.words stars) (phraseText i.pieces) := by
  have columns : Holds (nameWords i.columns) (phraseText (if i.columns.isEmpty then []
      else Phrase.parens (Phrase.commas (i.columns.map Phrase.ident)) ++ Phrase.words " ")) := by
    split
    case isTrue none => exact List.isEmpty_iff.mp none ▸ .nil
    case isFalse =>
      simp only [Phrase.parens, phraseText_append]
      exact (holds_idents i.columns).after.before.before
  have source (stars : Bool) : Holds (i.rowWords stars) (phraseText (match i.source with
      | some q => [.query q]
      | none =>
        if !i.values.isEmpty then i.values
        else if i.columns.isEmpty then Phrase.words "DEFAULT VALUES"
        else [])) := by
    rw [rowWords]
    cases i.source
    case some q =>
      simp only [phraseText_singleton]
      exact q.holds_toText stars
    case none =>
      cases i.values
      case nil => exact .nil
      case cons => exact holds_phraseText _
  have as_ := holds_option holds_ident " AS " i.as_
  rw [← nameWords_eq_flatMap] at as_
  rw [pieces, words]
  simp only [phraseText_append]
  exact ((((((holds_name i.table).after.append (holds_phraseText i.target)).append
    as_).before.append columns).append
    (holds_phraseText i.middle)).append (source _)).append (holds_phraseText i.tail)

theorem Update.holds_pieces (u : Update) : Holds (u.words stars) (phraseText u.pieces) := by
  rw [pieces, words]
  generalize (stars || isKeptAsText _) = stars
  rw [sourceWords_eq_flatMap, sourceWords_eq_flatMap]
  simp only [phraseText_append, phraseText_singleton]
  exact (((((u.table.holds_toText stars).after.append
    (holds_list (holds_sources stars) " FROM " u.fromBefore)).append
    (holds_list (holds_commas (Assignment.holds_pieces stars)) " SET " u.assignments)).append
    (holds_list (holds_sources stars) " FROM " u.fromAfter)).append
    (holds_condition stars " WHERE " u.cond)).append (holds_phraseText u.tail)

theorem Delete.holds_pieces (d : Delete) : Holds (d.words stars) (phraseText d.pieces) := by
  rw [pieces, words]
  generalize (stars || isKeptAsText _) = stars
  rw [sourceWords_eq_flatMap, sourceWords_eq_flatMap]
  simp only [phraseText_append]
  exact ((((holds_list holds_names " " d.tables).after.before.append
    (holds_sources stars d.from_)).append
    (holds_list (holds_sources stars) " USING " d.using_)).append
    (holds_condition stars " WHERE " d.cond)).append (holds_phraseText d.tail)

end

end SqlLens.Sql
