import SqlLens.Sql.Tree
import SqlLens.Text.Letter

namespace SqlLens.Sql

-- The text between two marks. A mark inside is written twice unless it already is, or unless a
-- backslash stands before it.
def doubleMarks (mark : Char) : Char → List Char → List Char
  | _, [] => []
  | prev, c :: cs =>
    if c == mark then
      if prev == '\\' then c :: doubleMarks mark prev cs
      else match cs with
        | c' :: cs' =>
          if c' == mark then c :: c' :: doubleMarks mark c cs'
          else c :: c :: doubleMarks mark c (c' :: cs')
        | [] => [c, c]
    else c :: doubleMarks mark c cs

def enclosed (mark : Char) (s : String) : String :=
  .ofList (mark :: doubleMarks mark (Char.ofNat 0) s.toList ++ [mark])

def Ident.toText (id : Ident) : String :=
  match id.quote with
  | none => id.text
  | some '[' => "[" ++ id.text ++ "]"
  | some q => enclosed q id.text

def nameText (n : Name) : String := ".".intercalate (n.map Ident.toText)

def commas (texts : List String) : String := ", ".intercalate texts

def Literal.toText : Literal → String
  | .number digits long => digits ++ (if long then "L" else "")
  | .string text => enclosed '\x27' text
  | .boolean b => if b then "true" else "false"
  | .null => "NULL"
  | .placeholder text => text
  | .other text => text

namespace JoinOperator

def keyword : JoinOperator → String
  | .join       => "JOIN"
  | .inner      => "INNER JOIN"
  | .left       => "LEFT JOIN"
  | .leftOuter  => "LEFT OUTER JOIN"
  | .right      => "RIGHT JOIN"
  | .rightOuter => "RIGHT OUTER JOIN"
  | .full       => "FULL JOIN"
  | .cross      => "CROSS JOIN"
  | .semi       => "SEMI JOIN"
  | .leftSemi   => "LEFT SEMI JOIN"
  | .rightSemi  => "RIGHT SEMI JOIN"
  | .anti       => "ANTI JOIN"
  | .leftAnti   => "LEFT ANTI JOIN"
  | .rightAnti  => "RIGHT ANTI JOIN"
  | .straight   => "STRAIGHT_JOIN"
  | .crossApply => "CROSS APPLY"
  | .outerApply => "OUTER APPLY"

end JoinOperator

def SetOperator.keyword : SetOperator → String
  | .union     => "UNION"
  | .except    => "EXCEPT"
  | .intersect => "INTERSECT"
  | .minus     => "MINUS"

def Quantifier.toText : Quantifier → String
  | .none           => ""
  | .all            => " ALL"
  | .distinct       => " DISTINCT"
  | .byName         => " BY NAME"
  | .allByName      => " ALL BY NAME"
  | .distinctByName => " DISTINCT BY NAME"

def Rows.toText : Rows → String
  | .none => ""
  | .row  => " ROW"
  | .rows => " ROWS"

-- Operators that are words, or that would run into their operand.
def spacedUnary : List String := ["NOT", "#", "@-@", "@@", "?-", "?|"]

-- The factorial is the one operator that is written behind its operand.
def isPostfix (op : String) : Bool := op == "!" 

-- Text in parentheses, nothing for an empty list.
def inParens : List String → String
  | [] => ""
  | texts => " (" ++ commas texts ++ ")"

def orderSuffix (asc nullsFirst : Option Bool) : String :=
  (match asc with
    | some true => " ASC"
    | some false => " DESC"
    | none => "") ++
  (match nullsFirst with
    | some true => " NULLS FIRST"
    | some false => " NULLS LAST"
    | none => "")

def Atom.toText : Atom → String
  | .text s => s
  | .name id => id.toText
  | .literal l => l.toText

def DataType.toText (t : DataType) : String := String.join (t.map Atom.toText)

def AliasColumn.toText (c : AliasColumn) : String :=
  c.name.toText ++
    match c.type with
    | some t => " " ++ DataType.toText t
    | none => ""

def Alias.toText (a : Alias) : String :=
  (if a.explicit then "AS " else "") ++ a.name.toText ++
    inParens (a.columns.map AliasColumn.toText)

def aliasText : Option Alias → String
  | none => ""
  | some a => " " ++ a.toText

-- A list of texts behind a keyword, nothing for an empty list.
def listClause (keyword : String) : List String → String
  | [] => ""
  | texts => keyword ++ commas texts

-- The right side of `ANY` and `ALL`; a query brings its own parentheses.
def quantified (e : Expr) (text : String) : String :=
  match e with
  | .subquery _ => text
  | _ => "(" ++ text ++ ")"

def JoinConstraint.isNatural : JoinConstraint → Bool
  | .natural => true
  | _ => false

-- The order of a call behind its arguments.
def withinText : List String → String
  | [] => ""
  | texts => " WITHIN GROUP (ORDER BY " ++ commas texts ++ ")"

-- What a plain query begins with; the sources may stand in front.
def selectHead (sources : String) : Option Bool → String
  | none => "SELECT"
  | some true => "FROM " ++ sources ++ " SELECT"
  | some false => "FROM " ++ sources

-- The sources behind the select list, if they do not stand in front.
def fromText (fromFirst : Option Bool) (sources : List String) : String :=
  if fromFirst.isNone then listClause " FROM " sources else ""

def distinctText : Option Bool → String
  | some true => "DISTINCT "
  | some false => "ALL "
  | none => ""

-- Keywords are in upper case, with one blank between words; names are as they were spelled.
mutual

def Piece.toText : Piece → String
  | .atom a => a.toText
  | .expr e => e.toText
  | .query q => q.toText
  | .source s => s.toText

def phraseText : List Piece → String
  | [] => ""
  | p :: ps => p.toText ++ phraseText ps

def Expr.toText : Expr → String
  | .ident id => id.toText
  | .compound first rest => nameText (first :: rest)
  | .binary l op r => l.toText ++ " " ++ op ++ " " ++ r.toText
  | .unary op e =>
    if isPostfix op then e.toText ++ op
    else if spacedUnary.contains op then op ++ " " ++ e.toText
    else op ++ e.toText
  | .nested e => "(" ++ e.toText ++ ")"
  | .isNull e negated => e.toText ++ (if negated then " IS NOT NULL" else " IS NULL")
  | .inList e items negated =>
    e.toText ++ (if negated then " NOT IN (" else " IN (") ++ commas (exprTexts items) ++ ")"
  | .inQuery e q negated =>
    e.toText ++ (if negated then " NOT IN (" else " IN (") ++ q.toText ++ ")"
  | .between e negated low high =>
    e.toText ++ (if negated then " NOT BETWEEN " else " BETWEEN ") ++ low.toText ++ " AND " ++
      high.toText
  | .like caseless negated any e pattern escape =>
    e.toText ++ " " ++ (if negated then "NOT " else "") ++
      (if caseless then "ILIKE " else "LIKE ") ++ (if any then "ANY " else "") ++
      pattern.toText ++
      (match escape with
        | some l => " ESCAPE " ++ l.toText
        | none => "")
  | .exists q negated => (if negated then "NOT " else "") ++ "EXISTS (" ++ q.toText ++ ")"
  | .subquery q => "(" ++ q.toText ++ ")"
  | .compareAny l op r isSome =>
    l.toText ++ " " ++ op ++ (if isSome then " SOME" else " ANY") ++ quantified r r.toText
  | .compareAll l op r => l.toText ++ " " ++ op ++ " ALL" ++ quantified r r.toText
  | .tuple items => "(" ++ commas (exprTexts items) ++ ")"
  | .literal l => l.toText
  | .call f => f.toText
  | .access root links => root.toText ++ phraseText links
  | .phrase pieces => phraseText pieces

def exprTexts : List Expr → List String
  | [] => []
  | e :: es => e.toText :: exprTexts es

-- An expression behind a text, if there is one.
def optionText (before : String) : Option Expr → String
  | none => ""
  | some e => before ++ e.toText

def Function.toText : Function → String
  | ⟨name, odbc, params, args, within, filter, tail⟩ =>
    (if odbc then "\x7bfn " else "") ++ nameText name ++ phraseText params ++ args.toText ++
    withinText (orderTexts within) ++ optionText " FILTER (WHERE " filter ++
    (if filter.isSome then ")" else "") ++ phraseText tail ++ (if odbc then "\x7d" else "")

def Arguments.toText : Arguments → String
  | .none => ""
  | .query q => "(" ++ q.toText ++ ")"
  | .list l => "(" ++ l.toText ++ ")"

def ArgumentList.toText : ArgumentList → String
  | ⟨distinct, args, before, order, after⟩ =>
    distinctText distinct ++ " ".intercalate
      ([commas (itemTexts args), phraseText before, listClause "ORDER BY " (orderTexts order),
        phraseText after].filter (!·.isEmpty))

def Item.toText : Item → String
  | .expr e => e.toText
  | .aliased e as_ => e.toText ++ " AS " ++ as_.toText
  | .star options => "*" ++ phraseText options
  | .phrase pieces => phraseText pieces

def itemTexts : List Item → List String
  | [] => []
  | i :: is => i.toText :: itemTexts is

def OrderItem.toText : OrderItem → String
  | ⟨e, asc, nullsFirst, fill⟩ => e.toText ++ orderSuffix asc nullsFirst ++ phraseText fill

def orderTexts : List OrderItem → List String
  | [] => []
  | i :: is => i.toText :: orderTexts is

def OrderBy.toText : OrderBy → String
  | .items is => listClause " ORDER BY " (orderTexts is)
  | .all pieces => " " ++ phraseText pieces

def Limits.toText : Limits → String
  | .plain limit offset word by_ =>
    optionText " LIMIT " limit ++ optionText " OFFSET " offset ++ word.toText ++
      listClause " BY " (exprTexts by_)
  | .comma offset limit => " LIMIT " ++ offset.toText ++ ", " ++ limit.toText

def Query.toText : Query → String
  | ⟨recursive, ctes, body, order, interpolate, limits, rest⟩ =>
    listClause (if recursive then "WITH RECURSIVE " else "WITH ") (cteTexts ctes) ++
    (if ctes.isEmpty then "" else " ") ++
    body.toText ++ order.toText ++ phraseText interpolate ++ limits.toText ++ phraseText rest

def Cte.toText : Cte → String
  | ⟨name, columns, materialized, query, from_⟩ =>
    name.toText ++ inParens (columns.map AliasColumn.toText) ++ " AS " ++
    (match materialized with
      | some m => m ++ " "
      | none => "") ++
    "(" ++ query.toText ++ ")" ++
    (match from_ with
      | some id => " FROM " ++ id.toText
      | none => "")

def cteTexts : List Cte → List String
  | [] => []
  | c :: cs => c.toText :: cteTexts cs

def Body.toText : Body → String
  | .select s => s.toText
  | .query q => "(" ++ q.toText ++ ")"
  | .setOperation op quantifier l r =>
    l.toText ++ " " ++ op.keyword ++ quantifier.toText ++ " " ++ r.toText
  | .phrase pieces => phraseText pieces

def Distinct.toText : Distinct → String
  | .none => ""
  | .plain => " DISTINCT"
  | .on es => " DISTINCT ON (" ++ commas (exprTexts es) ++ ")"

def Select.toText : Select → String
  | ⟨fromFirst, lead, distinct, top, items, afterItems, from_, afterFrom, cond, groupAll,
      groups, modifiers, afterGroup, having, tail⟩ =>
    selectHead (commas (sourceTexts from_)) fromFirst ++ phraseText lead ++ distinct.toText ++
    phraseText top ++ listClause " " (itemTexts items) ++ phraseText afterItems ++
    fromText fromFirst (sourceTexts from_) ++ phraseText afterFrom ++ optionText " WHERE " cond ++
    (if groupAll then " GROUP BY ALL" else "") ++ listClause " GROUP BY " (exprTexts groups) ++
    phraseText modifiers ++ phraseText afterGroup ++ optionText " HAVING " having ++ phraseText tail

def Source.toText : Source → String
  | .table name middle as_ after =>
    nameText name ++ phraseText middle ++ aliasText as_ ++ phraseText after
  | .derived lateral q as_ =>
    (if lateral then "LATERAL " else "") ++ "(" ++ q.toText ++ ")" ++ aliasText as_
  | .nested s as_ => "(" ++ s.toText ++ ")" ++ aliasText as_
  | .join l global operator r constraint =>
    l.toText ++ " " ++ (if global then "GLOBAL " else "") ++
    (if constraint.isNatural then "NATURAL " else "") ++ operator.keyword ++ " " ++ r.toText ++
    constraint.toText
  | .asof l global r matching constraint =>
    l.toText ++ " " ++ (if global then "GLOBAL " else "") ++ "ASOF JOIN " ++ r.toText ++
    phraseText matching ++ constraint.toText
  | .phrase pieces => phraseText pieces

def JoinConstraint.toText : JoinConstraint → String
  | .none | .natural => ""
  | .on e => " ON " ++ e.toText
  | .columns names => if names.isEmpty then "" else " USING(" ++ commas (names.map nameText) ++ ")"

def sourceTexts : List Source → List String
  | [] => []
  | s :: ss => s.toText :: sourceTexts ss

end

namespace Phrase

-- Phrases are put together from words and parts.
def words (s : String) : List Piece := [.atom (.text s)]

def ident (id : Ident) : List Piece := [.atom (.name id)]

def literal (l : Literal) : List Piece := [.atom (.literal l)]

def expr (e : Expr) : List Piece := [.expr e]

def query (q : Query) : List Piece := [.query q]

def source (s : Source) : List Piece := [.source s]

def dataType (t : DataType) : List Piece := t.map .atom

-- Phrases with a text between them.
def separated (separator : String) : List (List Piece) → List Piece
  | [] => []
  | [p] => p
  | p :: ps => p ++ words separator ++ separated separator ps

def commas (ps : List (List Piece)) : List Piece := separated ", " ps

def name (n : Name) : List Piece := separated "." (n.map ident)

def names (ns : List Name) : List Piece := commas (ns.map name)

def idents (ids : List Ident) : List Piece := commas (ids.map ident)

def exprs (es : List Expr) : List Piece := commas (es.map expr)

def sources (ss : List Source) : List Piece := commas (ss.map fun s => [.source s])

def parens (p : List Piece) : List Piece := words "(" ++ p ++ words ")"

-- A text if a condition holds.
def flag (b : Bool) (s : String) : List Piece := if b then words s else []

-- A part behind a text, if there is one.
def option (before : String) (f : α → List Piece) : Option α → List Piece
  | some a => words before ++ f a
  | none => []

-- A list behind a text, if it is not empty.
def list (before : String) (f : List α → List Piece) : List α → List Piece
  | [] => []
  | as => words before ++ f as

end Phrase

open Phrase

def AssignmentTarget.pieces : AssignmentTarget → List Piece
  | .name n => Phrase.name n
  | .tuple ns => parens (names ns)

def Assignment.pieces (a : Assignment) : List Piece :=
  a.target.pieces ++ words " = " ++ [.expr a.value]

def assignmentPieces (as : List Assignment) : List Piece :=
  Phrase.commas (as.map Assignment.pieces)

def Insert.pieces (i : Insert) : List Piece :=
  words (i.verb ++ " ") ++ Phrase.name i.table ++ i.target ++ option " AS " ident i.as_ ++
  words " " ++
  (if i.columns.isEmpty then []
    else parens (Phrase.commas (i.columns.map ident)) ++ words " ") ++
  i.middle ++
  (match i.source with
    | some q => [.query q]
    | none =>
      if !i.values.isEmpty then i.values
      else if i.columns.isEmpty then words "DEFAULT VALUES"
      else []) ++
  i.tail

def Update.pieces (u : Update) : List Piece :=
  words "UPDATE " ++ option "" (fun c => words (c ++ " ")) u.conflict ++ [.source u.table] ++
  list " FROM " sources u.fromBefore ++ list " SET " assignmentPieces u.assignments ++
  list " FROM " sources u.fromAfter ++ option " WHERE " (fun e => [.expr e]) u.cond ++ u.tail

def Delete.pieces (d : Delete) : List Piece :=
  words "DELETE" ++ list " " names d.tables ++
  words (if d.fromKeyword then " FROM " else " ") ++ sources d.from_ ++
  list " USING " sources d.using_ ++ option " WHERE " (fun e => [.expr e]) d.cond ++ d.tail

-- A statement as a phrase.
def Statement.pieces : Statement → List Piece
  | .query q => [.query q]
  | .insert i => i.pieces
  | .update u => u.pieces
  | .delete d => d.pieces
  | .phrase pieces => pieces

def Statement.toText (s : Statement) : String := phraseText s.pieces

end SqlLens.Sql
