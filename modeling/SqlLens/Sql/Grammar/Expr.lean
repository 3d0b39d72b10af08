import SqlLens.Sql.Grammar.Form

namespace SqlLens.Sql

-- A step into a value.
inductive Link where
  | dot (e : Expr)
  | bracket (pieces : List Piece)

namespace Link

def ident? : Link → Option Ident
  | .dot (.ident id) => some id
  | _ => none

def pieces : Link → List Piece
  | .dot e => Phrase.words "." ++ Phrase.expr e
  | .bracket pieces => pieces

-- The names of a chain that has only names.
def names? (links : List Link) : Option Name := links.mapM ident?

-- A value with steps into it. Names in a row are one name, and a call at the end of them is a call
-- of a function with that name.
def build (root : Expr) (links : List Link) : Expr :=
  match root, links.getLast? with
  | root, none => root
  | .ident id, some last =>
    match names? links, last, names? links.dropLast with
    | some ids, _, _ => .compound id ids
    | none, .dot (.call f), some ids => .call { f with name := id :: ids ++ f.name }
    | _, _, _ => .access root (links.flatMap pieces)
  | root, some _ => .access root (links.flatMap pieces)

-- The steps that an expression behind a dot stands for.
def ofSuffix : Expr → List Link
  | .compound first rest => (first :: rest).map fun id => .dot (.ident id)
  | e => [.dot e]

end Link

namespace Parser

open Phrase (words option)

-- A bracket with an index or with the ends of a range.
def subscript (r : Rules) : Parser (List Piece) := do
  let colon ← strengthOf .colon
  let low ← (do
    if ← symbol? ":" then return none else return some (← r.expr colon))
  if ← symbol? "]" then
    match low with
    | some e => return words "[" ++ Phrase.expr e ++ words "]"
    | none => return words "[:]"
  if low.isSome then expectSymbol ":"
  let head := words "[" ++ option "" Phrase.expr low ++ words ":"
  if ← symbol? "]" then return head ++ words "]"
  let high ← r.expr colon
  let head := head ++ Phrase.expr high
  if ← symbol? "]" then return head ++ words "]"
  expectSymbol ":"
  if ← symbol? "]" then return head ++ words "]"
  let stride ← r.expr 0
  expectSymbol "]"
  return head ++ words ":" ++ Phrase.expr stride ++ words "]"

-- Whether an expression may stand behind a dot.
def isSuffix : Expr → Bool
  | .access .. | .compound .. | .ident _ | .literal _ | .call _ => true
  | _ => false

-- What follows a dot.
def suffix (r : Rules) : Parser (List Link) := do
  match ← token with
  | .string .single text =>
    skip
    return [.dot (.ident ⟨text, some '\x27'⟩)]
  | _ =>
    let found ← attempt do
      let e ← r.expr (← strengthOf .period)
      if isSuffix e then return e else expected "an identifier or value"
    match found with
    | some (.access root links) => return [.dot root, .bracket links]
    | some e => return Link.ofSuffix e
    | none => return [.dot (.ident (← ident))]

-- Dots and brackets behind an operand.
def chain (r : Rules) (root : Expr) : Parser Expr := do
  let d ← dialect
  let (links, star) ← repeated (fun ((links, star) : List Link × Bool) => do
    if star then return none
    if ← peekSymbol "." then
      if (← tokenAt 1).isSymbol "*" then
        if d.isPostgresql then
          skip
          skip
          return some (links, true)
        else return none
      skip
      return some (links ++ (← suffix r), false)
    else if ← symbol? "[" then return some (links ++ [.bracket (← subscript r)], false)
    else return none) ([], false)
  if !star then return Link.build root links
  match root, Link.names? links with
  | .ident id, some ids => return .phrase (Phrase.name (id :: ids) ++ words ".*")
  | _, _ => expected "an identifier or a '*' after '.'"

-- A word as a name, a call or the parameter of a lambda. The word has been taken.
def nameExpr (r : Rules) (id : Ident) : Parser Expr := do
  let d ← dialect
  match ← token with
  | .symbol "(" => return .call (← call r [id])
  | .symbol "->" =>
    if d.hasLambdas then
      skip
      return .phrase (Phrase.ident id ++ words " -> " ++ Phrase.expr (← r.expr 0))
    else return .ident id
  | .string form text =>
    if id.text.startsWith "_" && [Quotation.single, .double, .hex].contains form then
      match Literal.ofToken? (.string form text) with
      | some v =>
        skip
        return .phrase (Phrase.ident id ++ words " " ++ Phrase.literal v)
      | none => return .ident id
    else return .ident id
  | _ => return .ident id

-- Whether a word that begins a form is never a name.
def isNameStop (k : String) : Parser Bool := do
  if k == "INTERVAL" && (← dialect).isPostgresql then return false
  return Words.nameStops.contains k

-- A word is read as the form that it begins, and else as a name.
def wordExpr (r : Rules) (id : Ident) (k : String) : Parser Expr := do
  match ← attempt' (keywordForm? r id k) with
  | .ok (some e) => return e
  | .ok none => nameExpr r id
  | .error f =>
    if ← isNameStop k then throw f
    match ← attempt' (nameExpr r id) with
    | .ok e => return e
    | .error _ => throw f

-- A type in front of a literal.
def typedLiteral (r : Rules) : Parser Expr := do
  let (kind, type, closed) ← readType r
  let type ← whole (type, closed)
  let typed : Parser Expr := do
    let value ← literal
    return .phrase (Phrase.dataType type ++ words " " ++ Phrase.literal value)
  match kind with
  | .interval => interval r
  | .custom => fail "not a type"
  | .binary =>
    if (← dialect).isMysql then
      return .phrase (words "CAST(" ++ Phrase.expr (← r.expr 0) ++ words " AS BINARY)")
    else typed
  | .builtin => typed

def lambda (r : Rules) : Parser Expr := do
  let params ← commaSeparated ident
  expectSymbol ")"
  expectSymbol "->"
  return .phrase (Phrase.parens (Phrase.idents params) ++ words " -> " ++
    Phrase.expr (← r.expr 0))

def peekQuery : Parser Bool := peekAny ["SELECT", "WITH"]

-- What stands between parentheses, behind the opening one.
def parenExpr (r : Rules) : Parser Expr := do
  if ← peekQuery then
    let q ← r.query
    expectSymbol ")"
    return .subquery q
  if (← dialect).hasLambdas then
    if let some e ← attempt (lambda r) then return e
  let es ← commaSeparated (r.expr 0)
  expectSymbol ")"
  match es with
  | [e] => return .nested e
  | es => return .tuple es

-- Operators in front of an operand, and how tightly they bind it.
def signBinding? (d : Dialect) : Token → Option Binding
  | .symbol s =>
    if s == "-" || s == "+" || s == "~" then some .times
    else if d.isPostgresql && ["!!", "|/", "||/", "@"].contains s then some .plus
    else if d.hasGeometry && ["#", "@-@", "@@", "?-", "?|"].contains s then some .plus
    else none
  | _ => none

def prefixExpr (r : Rules) : Parser Expr := do
  let d ← dialect
  if let some e ← attempt (typedLiteral r) then return e
  let l ← lexeme
  if let some binding := signBinding? d l.token then
    skip
    return .unary l.token.text (← r.expr (← strengthOf binding))
  match l.token with
  | .word text k quote =>
    skip
    wordExpr r ⟨text, quote⟩ (if quote.isNone then k else "")
  | .symbol "[" =>
    skip
    arrayForm r false
  | .symbol "(" =>
    skip
    parenExpr r
  | .symbol "\x7b" => bracedForm r
  | .symbol ":" | .symbol "@" => return .literal (← literal)
  | t =>
    if (Literal.ofToken? t).isSome then return .literal (← literal)
    else expected "an expression"

-- The operator behind `OPERATOR`, in parentheses.
def namedOperator : Parser String := do
  expectSymbol "("
  let parts ← separated (symbol? ".") do return (← next).token.text
  expectSymbol ")"
  return "OPERATOR(" ++ ".".intercalate parts ++ ")"

-- Key by key into a value.
def jsonPath (r : Rules) : Parser (List Piece) := do
  let pieces ← repeated (fun pieces => do
    let first := pieces.isEmpty
    let key (mark : String) : Parser (Option (List Piece)) := do
      skip
      let l ← next
      match l.token with
      | .word text _ none => return some (pieces ++ words (mark ++ text))
      | .word text _ (some '\x22') => return some (pieces ++ words (mark ++ enclosed '\x22' text))
      | .string .double text => return some (pieces ++ words (mark ++ enclosed '\x22' text))
      | _ => expectedAt "variant object key name" l
    if first && (← peekSymbol ":") then key ":"
    else if !first && (← peekSymbol ".") then key "."
    else if ← symbol? "[" then
      let item ← starOrExpr r
      expectSymbol "]"
      return some (pieces ++ words "[" ++ Phrase.item item ++ words "]")
    else return none) []
  return pieces

def escape? : Parser (Option Literal) := after? "ESCAPE" literal

def inForm (r : Rules) (e : Expr) (negated : Bool) : Parser Expr := do
  if ← keyword? "UNNEST" then
    let array ← parenthesized (r.expr 0)
    return .phrase (Phrase.expr e ++ words (if negated then " NOT IN UNNEST(" else " IN UNNEST(") ++
      Phrase.expr array ++ words ")")
  expectSymbol "("
  let found ← (do
    match ← attempt r.query with
    | some q => return .inQuery e q negated
    | none =>
      if (← dialect).allowsEmptyInList then
        return .inList e (← commaSeparated0 (r.expr 0) ")") negated
      else return .inList e (← commaSeparated (r.expr 0)) negated)
  expectSymbol ")"
  return found

-- Tests that may be negated by a `NOT` before their keyword.
def negatable (r : Rules) (e : Expr) : Parser Expr := do
  let negated ← keyword? "NOT"
  let like ← strengthOf .like
  let head (k : String) := Phrase.expr e ++ words (if negated then " NOT " ++ k else " " ++ k)
  match ← oneOf? ["REGEXP", "RLIKE"] with
  | some k => return .phrase (head (k ++ " ") ++ Phrase.expr (← r.expr like))
  | none =>
    let null ← (do
      if (← get).mode == .columnDefinition then return false else keyword? "NULL")
    if negated && null then return .isNull e true
    else if ← keyword? "IN" then inForm r e negated
    else if ← keyword? "BETWEEN" then
      let between ← strengthOf .between
      let low ← r.expr between
      expectKeyword "AND"
      return .between e negated low (← r.expr between)
    else if let some k ← oneOf? ["LIKE", "ILIKE"] then
      let any ← keyword? "ANY"
      let pattern ← r.expr like
      return .like (k == "ILIKE") negated any e pattern (← escape?)
    else if ← keywords? ["SIMILAR", "TO"] then
      let pattern ← r.expr like
      return .phrase (head "SIMILAR TO " ++ Phrase.expr pattern ++
        option " ESCAPE " Phrase.literal (← escape?))
    else expected "IN or BETWEEN after NOT"

def isForm (r : Rules) (e : Expr) : Parser Expr := do
  let test (text : String) : Parser Expr := return .phrase (Phrase.expr e ++ words text)
  if ← keyword? "NULL" then return .isNull e false
  else if ← keywords? ["NOT", "NULL"] then return .isNull e true
  else if ← keyword? "TRUE" then test " IS TRUE"
  else if ← keywords? ["NOT", "TRUE"] then test " IS NOT TRUE"
  else if ← keyword? "FALSE" then test " IS FALSE"
  else if ← keywords? ["NOT", "FALSE"] then test " IS NOT FALSE"
  else if ← keyword? "UNKNOWN" then test " IS UNKNOWN"
  else if ← keywords? ["NOT", "UNKNOWN"] then test " IS NOT UNKNOWN"
  else if ← keywords? ["DISTINCT", "FROM"] then
    return .phrase (Phrase.expr e ++ words " IS DISTINCT FROM " ++ Phrase.expr (← r.expr 0))
  else if ← keywords? ["NOT", "DISTINCT", "FROM"] then
    return .phrase (Phrase.expr e ++ words " IS NOT DISTINCT FROM " ++ Phrase.expr (← r.expr 0))
  else
    let negated ← keyword? "NOT"
    let form ← oneOf? ["NFC", "NFD", "NFKC", "NFKD"]
    if ← keyword? "NORMALIZED" then
      test ((if negated then " IS NOT " else " IS ") ++ (form.map (· ++ " ")).getD "" ++
        "NORMALIZED")
    else
      expected "[NOT] NULL | TRUE | FALSE | DISTINCT | [form] NORMALIZED FROM after IS"

-- The right side of an operator, with or without a quantifier.
def rightSide (r : Rules) (e : Expr) (op : String) (start : Position) (strength : Nat) :
    Parser Expr := do
  match ← oneOf? ["ANY", "ALL", "SOME"] with
  | none => return .binary e op (← r.expr strength)
  | some k =>
    let query := (← tokenAt 1).isKeyword "SELECT" || (← tokenAt 1).isKeyword "WITH"
    let right ← (do
      if (← peekSymbol "(") && query then r.expr strength
      else parenthesized (r.expr strength))
    if !Words.comparisons.contains op then
      fail ("Expected one of [=, >, <, =>, =<, !=, ~, ~*, !~, !~*, ~~, ~~*, !~~, !~~*] as " ++
        "comparison operator, found: " ++ op) (some start)
    if k == "ALL" then return .compareAll e op right
    else return .compareAny e op right (k == "SOME")

-- An operator and what stands to its right; `e` stands to its left.
def infixExpr (r : Rules) (e : Expr) (strength : Nat) : Parser Expr := do
  let d ← dialect
  let l ← lexeme
  let k := l.token.keyword
  if d.isSqlite && (k == "REGEXP" || k == "MATCH") || d.isMysql && k == "DIV" then
    skip
    return .binary e k (← r.expr 0)
  if ["NOT", "IN", "BETWEEN", "LIKE", "ILIKE", "SIMILAR", "REGEXP", "RLIKE"].contains k then
    return ← negatable r e
  if l.token.isSymbol ":" then
    return .phrase (Phrase.expr e ++ (← jsonPath r))
  skip
  if k == "OPERATOR" && (d.isPostgresql || d.isGeneric) then
    let op ← namedOperator
    return ← rightSide r e op l.start strength
  match binaryOperator? d l.token with
  | some op => rightSide r e op l.start strength
  | none =>
    match l.token with
    | .symbol "::" =>
      return .phrase (Phrase.expr e ++ words "::" ++ Phrase.dataType (← typeName r))
    | t =>
      match k with
      | "IS" => isForm r e
      | "AT" =>
        expectKeywords ["TIME", "ZONE"]
        return .phrase (Phrase.expr e ++ words " AT TIME ZONE " ++
          Phrase.expr (← r.expr strength))
      | "NOTNULL" => return .isNull e true
      | "MEMBER" =>
        if ← keyword? "OF" then
          let array ← parenthesized (r.expr 0)
          return .phrase (Phrase.expr e ++ words " MEMBER OF(" ++ Phrase.expr array ++ words ")")
        else expected "OF after MEMBER"
      | "COLLATE" =>
        return .phrase (Phrase.expr e ++ words " COLLATE " ++ Phrase.name (← name))
      | _ =>
        if d.isPostgresql && t.isSymbol "!" then return .unary "!" e
        fail ("No infix parser for token " ++ operatorLabel t) (some l.start)

-- An expression up to the first operator that binds no more tightly than `strength`.
def expression (r : Rules) (strength : Nat) : Parser Expr := deeper do
  let e ← chain r (← prefixExpr r)
  let e ← (do
    if (← get).mode != .columnDefinition && (← peekKeyword "COLLATE") then
      skip
      return .phrase (Phrase.expr e ++ words " COLLATE " ++ Phrase.name (← name))
    else return e)
  repeated (fun e => do
    let next ← nextStrength
    if strength ≥ next || (← peekSymbol ".") then return none
    else return some (← infixExpr r e next)) e

end Parser

end SqlLens.Sql
