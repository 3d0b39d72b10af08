namespace SqlLens.Sql

-- A name as it was spelled; `quote` is the opening mark, if there was one.
structure Ident where
  text  : String
  quote : Option Char := none
deriving DecidableEq, Repr

-- A dotted name.
abbrev Name := List Ident

inductive Literal where
  | number (digits : String) (long : Bool)
  | string (text : String)
  | boolean (value : Bool)
  | null
  | placeholder (text : String)
  -- Any other literal, by its canonical text.
  | other (text : String)
deriving DecidableEq, Repr

inductive JoinOperator where
  | join
  | inner
  | left
  | leftOuter
  | right
  | rightOuter
  | full
  | cross
  | semi
  | leftSemi
  | rightSemi
  | anti
  | leftAnti
  | rightAnti
  | straight
  | crossApply
  | outerApply
deriving DecidableEq, Repr

inductive SetOperator where
  | union
  | except
  | intersect
  | minus
deriving DecidableEq, Repr

-- How a set operation treats repeated rows and how it matches columns.
inductive Quantifier where
  | none
  | all
  | distinct
  | byName
  | allByName
  | distinctByName
deriving DecidableEq, Repr

-- The word behind an offset.
inductive Rows where
  | none
  | row
  | rows
deriving DecidableEq, Repr

-- A word of a phrase that has no inner structure.
inductive Atom where
  | text (s : String)
  | name (id : Ident)
  | literal (l : Literal)
deriving DecidableEq, Repr

-- Data types are kept as the words they are written with.
abbrev DataType := List Atom

structure AliasColumn where
  name : Ident
  type : Option DataType := none
deriving DecidableEq, Repr

structure Alias where
  -- Whether `AS` is written.
  explicit : Bool
  name     : Ident
  columns  : List AliasColumn := []
deriving DecidableEq, Repr

-- The columns that an assignment sets.
inductive AssignmentTarget where
  | name (n : Name)
  | tuple (ns : List Name)
deriving DecidableEq, Repr

mutual

-- A part of a phrase. A construct without a constructor or field of its own is a phrase: its words
-- and parts in the order in which they are written.
inductive Piece where
  | atom (a : Atom)
  | expr (e : Expr)
  | query (q : Query)
  | source (s : Source)

inductive Expr where
  | ident (id : Ident)
  -- A dotted name of a first part and further ones.
  | compound (first : Ident) (rest : Name)
  | binary (l : Expr) (op : String) (r : Expr)
  | unary (op : String) (e : Expr)
  | nested (e : Expr)
  | isNull (e : Expr) (negated : Bool)
  | inList (e : Expr) (items : List Expr) (negated : Bool)
  | inQuery (e : Expr) (q : Query) (negated : Bool)
  | between (e : Expr) (negated : Bool) (low high : Expr)
  | like (caseless negated any : Bool) (e pattern : Expr) (escape : Option Literal)
  | exists (q : Query) (negated : Bool)
  | subquery (q : Query)
  | compareAny (l : Expr) (op : String) (r : Expr) (isSome : Bool)
  | compareAll (l : Expr) (op : String) (r : Expr)
  | tuple (items : List Expr)
  | literal (l : Literal)
  | call (f : Function)
  -- A field or element of a value.
  | access (root : Expr) (links : List Piece)
  | phrase (pieces : List Piece)

structure Function where
  name   : Name
  -- Written as `{fn ...}`.
  odbc   : Bool := false
  -- A first list of arguments.
  params : List Piece := []
  args   : Arguments
  within : List OrderItem := []
  filter : Option Expr := none
  -- Treatment of nulls and window.
  tail   : List Piece := []

-- A function may be called without parentheses, with a query, or with a list of arguments.
inductive Arguments where
  | none
  | query (q : Query)
  | list (l : ArgumentList)

-- What stands between the parentheses of a call.
structure ArgumentList where
  -- The word in front of the arguments.
  distinct : Option Bool := none
  args     : List Item := []
  -- Clauses before the order, the order, and clauses behind it.
  before   : List Piece := []
  order    : List OrderItem := []
  after    : List Piece := []

-- An item of a select list or an argument.
inductive Item where
  | expr (e : Expr)
  | aliased (e : Expr) (as_ : Ident)
  | star (options : List Piece)
  | phrase (pieces : List Piece)

structure OrderItem where
  expr       : Expr
  asc        : Option Bool := none
  nullsFirst : Option Bool := none
  fill       : List Piece := []

-- The order of a query: by expressions, or by everything.
inductive OrderBy where
  | items (is : List OrderItem)
  | all (pieces : List Piece)

-- Which rows of a query are wanted. The second form is written as `LIMIT offset, limit`.
inductive Limits where
  | plain (limit offset : Option Expr) (word : Rows) (by_ : List Expr)
  | comma (offset limit : Expr)

structure Query where
  recursive   : Bool := false
  ctes        : List Cte := []
  body        : Body
  order       : OrderBy
  interpolate : List Piece := []
  limits      : Limits
  -- Clauses that statement trees have no place for.
  rest        : List Piece := []

structure Cte where
  name         : Ident
  columns      : List AliasColumn := []
  materialized : Option String := none
  query        : Query
  from_        : Option Ident := none

inductive Body where
  | select (s : Select)
  -- A query in parentheses.
  | query (q : Query)
  | setOperation (op : SetOperator) (quantifier : Quantifier) (l r : Body)
  | phrase (pieces : List Piece)

-- Whether repeated rows are dropped, and by which expressions they are told apart.
inductive Distinct where
  | none
  | plain
  | on (es : List Expr)

-- The fields without a type of their own hold clauses that statement trees have no place for, in
-- the positions in which they are written.
structure Select where
  -- The FROM clause stands first, with or without a select list behind it.
  fromFirst  : Option Bool := none
  lead       : List Piece := []
  distinct   : Distinct
  top        : List Piece := []
  items      : List Item := []
  afterItems : List Piece := []
  from_      : List Source := []
  afterFrom  : List Piece := []
  cond       : Option Expr := none
  groupAll   : Bool := false
  groups     : List Expr := []
  modifiers  : List Piece := []
  afterGroup : List Piece := []
  having     : Option Expr := none
  tail       : List Piece := []

-- What ties two sources together.
inductive JoinConstraint where
  | none
  | natural
  | on (e : Expr)
  | columns (names : List Name)

-- What stands in a FROM clause.
inductive Source where
  | table (name : Name) (middle : List Piece) (as_ : Option Alias) (after : List Piece)
  | derived (lateral : Bool) (q : Query) (as_ : Option Alias)
  -- In parentheses.
  | nested (s : Source) (as_ : Option Alias)
  | join (l : Source) (global : Bool) (operator : JoinOperator) (r : Source)
      (constraint : JoinConstraint)
  -- A join with the nearest match.
  | asof (l : Source) (global : Bool) (r : Source) (matching : List Piece)
      (constraint : JoinConstraint)
  | phrase (pieces : List Piece)

end

-- A query that is nothing but its body.
def Query.ofBody (body : Body) : Query where
  body   := body
  order  := .items []
  limits := .plain none none .none []

def Source.isJoin : Source → Bool
  | .join .. | .asof .. => true
  | _ => false

def Item.isStar : Item → Bool
  | .star _ => true
  | _ => false

structure Assignment where
  target : AssignmentTarget
  value  : Expr

structure Insert where
  -- The words in front of the table.
  verb    : String
  -- No other words than `INSERT` and `INTO`.
  plain   : Bool
  -- Empty for a table that is not given by name.
  table   : Name
  target  : List Piece := []
  as_     : Option Ident := none
  columns : List Ident := []
  middle  : List Piece := []
  source  : Option Query := none
  -- What stands in place of a source.
  values  : List Piece := []
  tail    : List Piece := []

structure Update where
  conflict    : Option String := none
  table       : Source
  fromBefore  : List Source := []
  assignments : List Assignment := []
  fromAfter   : List Source := []
  cond        : Option Expr := none
  tail        : List Piece := []

structure Delete where
  tables      : List Name := []
  fromKeyword : Bool := true
  from_       : List Source
  using_      : List Source := []
  cond        : Option Expr := none
  tail        : List Piece := []

inductive Statement where
  | query (q : Query)
  | insert (i : Insert)
  | update (u : Update)
  | delete (d : Delete)
  | phrase (pieces : List Piece)

end SqlLens.Sql
