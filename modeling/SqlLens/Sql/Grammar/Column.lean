import SqlLens.Sql.Grammar.Query

namespace SqlLens.Sql.Parser

open Phrase (words option flag)

-- An option by its name and value.
def sqlOption (r : Rules) : Parser (List Piece) := do
  let key ← ident
  expectSymbol "="
  return Phrase.ident key ++ words " = " ++ Phrase.expr (← r.expr 0)

-- Options in parentheses behind a keyword.
def sqlOptions (r : Rules) (k : String) : Parser (List Piece) := do
  if !(← keyword? k) then return []
  let items ← parenthesized (commaSeparated0 (sqlOption r) ")")
  return words (k ++ " (") ++ Phrase.commas items ++ words ")"

def referentialAction : Parser String := do
  if ← keyword? "RESTRICT" then return "RESTRICT"
  else if ← keyword? "CASCADE" then return "CASCADE"
  else if ← keywords? ["SET", "NULL"] then return "SET NULL"
  else if ← keywords? ["NO", "ACTION"] then return "NO ACTION"
  else if ← keywords? ["SET", "DEFAULT"] then return "SET DEFAULT"
  else expected "one of RESTRICT, CASCADE, SET NULL, NO ACTION or SET DEFAULT"

-- When a constraint is checked.
structure Characteristics where
  deferrable : Option Bool := none
  deferred   : Option Bool := none
  enforced   : Option Bool := none

def Characteristics.text (c : Characteristics) : String :=
  (match c.deferrable with
    | some true => " DEFERRABLE"
    | some false => " NOT DEFERRABLE"
    | none => "") ++
  (match c.deferred with
    | some true => " INITIALLY DEFERRED"
    | some false => " INITIALLY IMMEDIATE"
    | none => "") ++
  (match c.enforced with
    | some true => " ENFORCED"
    | some false => " NOT ENFORCED"
    | none => "")

def characteristics : Parser (List Piece) := do
  let c ← repeated (fun (c : Characteristics) => do
    if c.deferrable.isNone && (← keywords? ["NOT", "DEFERRABLE"]) then
      return some { c with deferrable := some false }
    else if c.deferrable.isNone && (← keyword? "DEFERRABLE") then
      return some { c with deferrable := some true }
    else if c.deferred.isNone && (← keywords? ["INITIALLY", "DEFERRED"]) then
      return some { c with deferred := some true }
    else if c.deferred.isNone && (← keywords? ["INITIALLY", "IMMEDIATE"]) then
      return some { c with deferred := some false }
    else if c.enforced.isNone && (← keywords? ["NOT", "ENFORCED"]) then
      return some { c with enforced := some false }
    else if c.enforced.isNone && (← keyword? "ENFORCED") then
      return some { c with enforced := some true }
    else return none) {}
  return words c.text

-- What is done to rows that refer to a row which goes or changes.
structure Reactions where
  match_   : Option String := none
  onDelete : Option String := none
  onUpdate : Option String := none

def reactions : Parser (List Piece) := do
  let a ← repeated (fun (a : Reactions) => do
    if a.match_.isNone && (← keyword? "MATCH") then
      return some { a with match_ := some (← expectOneOf ["FULL", "PARTIAL", "SIMPLE"]) }
    else if a.onDelete.isNone && (← keywords? ["ON", "DELETE"]) then
      return some { a with onDelete := some (← referentialAction) }
    else if a.onUpdate.isNone && (← keywords? ["ON", "UPDATE"]) then
      return some { a with onUpdate := some (← referentialAction) }
    else return none) {}
  return option " MATCH " words a.match_ ++ option " ON DELETE " words a.onDelete ++
    option " ON UPDATE " words a.onUpdate

-- A condition in parentheses, and whether it is enforced.
def check (r : Rules) : Parser (List Piece) := do
  let e ← parenthesized (inMode .normal (r.expr 0))
  let enforced ← (do
    if ← keyword? "ENFORCED" then return " ENFORCED"
    if ← keywords? ["NOT", "ENFORCED"] then return " NOT ENFORCED"
    return "")
  return words "CHECK (" ++ Phrase.expr e ++ words (")" ++ enforced)

-- The value of an option. In parentheses words have their usual meaning again.
def optionValue (r : Rules) : Parser Expr := do
  if ← peekSymbol "(" then inMode .normal r.operand else r.expr 0

-- A column whose values are computed.
def generated (r : Rules) : Parser (List Piece) := do
  let computed (head : String) : Parser (List Piece) := do
    let e ← parenthesized (inMode .normal (r.expr 0))
    let mode ← oneOf? ["STORED", "VIRTUAL"]
    return words (head ++ " (") ++ Phrase.expr e ++ words ")" ++ option " " words mode
  if ← keyword? "AS" then return ← computed "AS"
  expectKeyword "GENERATED"
  let way ← (do
    if ← keyword? "ALWAYS" then return "GENERATED ALWAYS"
    expectKeywords ["BY", "DEFAULT"]
    return "GENERATED BY DEFAULT")
  expectKeyword "AS"
  if ← keyword? "IDENTITY" then return words (way ++ " AS IDENTITY")
  computed (way ++ " AS")

-- Options of a column whose first word is not known in all dialects.
def dialectOption? (r : Rules) (k : String) : Parser (Option (List Piece)) := do
  let d ← dialect
  let valued : Parser (Option (List Piece)) := do
    skip
    return some (words (k ++ " ") ++ Phrase.expr (← optionValue r))
  let word : Parser (Option (List Piece)) := do
    skip
    return some (words k)
  match k with
  | "MATERIALIZED" | "ALIAS" => if d.isClickhouse || d.isGeneric then valued else return none
  | "EPHEMERAL" =>
    if d.isClickhouse || d.isGeneric then
      skip
      if (← peekSymbol ",") || (← peekSymbol ")") then return some (words k)
      return some (words (k ++ " ") ++ Phrase.expr (← optionValue r))
    else return none
  | "AUTO_INCREMENT" => if d.isMysql || d.isGeneric then word else return none
  | "AUTOINCREMENT" => if d.isSqlite || d.isGeneric then word else return none
  | "ASC" | "DESC" => if d.isSqlite || d.isGeneric then word else return none
  | "SRID" => if d.isMysql || d.isGeneric then valued else return none
  | "AS" =>
    if d.isMysql || d.isSqlite || d.isGeneric then return some (← generated r) else return none
  | "ON" =>
    if (d.isMysql || d.isGeneric) && (← keywords? ["ON", "UPDATE"]) then
      return some (words "ON UPDATE " ++ Phrase.expr (← optionValue r))
    else if (d.isSqlite || d.isGeneric) && (← keywords? ["ON", "CONFLICT"]) then
      let action ← expectOneOf ["ROLLBACK", "ABORT", "FAIL", "IGNORE", "REPLACE"]
      return some (words ("ON CONFLICT " ++ action))
    else return none
  | _ => return none

def columnOption? (r : Rules) : Parser (Option (List Piece)) := do
  let k := (← token).keyword
  if ← keywords? ["CHARACTER", "SET"] then
    return some (words "CHARACTER SET " ++ Phrase.name (← name))
  else if ← keyword? "COLLATE" then return some (words "COLLATE " ++ Phrase.name (← name))
  else if ← keywords? ["NOT", "NULL"] then return some (words "NOT NULL")
  else if ← keyword? "COMMENT" then
    return some (words ("COMMENT " ++ (Literal.string (← stringLiteral)).toText))
  else if ← keyword? "NULL" then return some (words "NULL")
  else if ← keyword? "DEFAULT" then return some (words "DEFAULT " ++ Phrase.expr (← optionValue r))
  else if ← keywords? ["PRIMARY", "KEY"] then return some (words "PRIMARY KEY" ++ (← characteristics))
  else if ← keyword? "UNIQUE" then return some (words "UNIQUE" ++ (← characteristics))
  else if ← keyword? "REFERENCES" then
    let table ← name
    let columns ← columnList false false ident
    let actions ← reactions
    return some (words "REFERENCES " ++ Phrase.name table ++
      Phrase.list " " (fun ids => Phrase.parens (Phrase.idents ids)) columns ++ actions ++
      (← characteristics))
  else if ← keyword? "CHECK" then return some (← check r)
  else if k == "GENERATED" then return some (← generated r)
  else dialectOption? r k

-- Options one after the other, each with a name or without.
def columnOptions (r : Rules) : Parser (List Piece) := do
  let found ← many do
    if ← keyword? "CONSTRAINT" then
      let name ← ident
      match ← inMode .columnDefinition (columnOption? r) with
      | some o => return some (words " CONSTRAINT " ++ Phrase.ident name ++ words " " ++ o)
      | none => expected "constraint details after CONSTRAINT <name>"
    match ← inMode .columnDefinition (columnOption? r) with
    | some o => return some (words " " ++ o)
    | none => return none
  return found.flatten

-- Some dialects do without a type.
def isUntyped : Parser Bool := do
  if !(← dialect).isSqlite then return false
  match ← token with
  | .word _ k _ =>
    return ["CONSTRAINT", "PRIMARY", "NOT", "UNIQUE", "CHECK", "DEFAULT", "COLLATE", "REFERENCES",
      "GENERATED", "AS"].contains k
  | _ => return true

def columnDefinition (r : Rules) : Parser (List Piece) := do
  let name ← ident
  let type ← (do
    if ← isUntyped then return [] else return words " " ++ Phrase.dataType (← typeName r))
  return Phrase.ident name ++ type ++ (← columnOptions r)

def indexColumns (r : Rules) : Parser (List Piece) := do
  return Phrase.parens (Phrase.orderItems (← parenthesized (commaSeparated (orderItem r))))

def optionalIdent : Parser (Option Ident) := do
  if (← token).isWord then return some (← ident) else return none

-- How an index finds its rows.
def indexType? : Parser (Option (List Piece)) :=
  after? "USING" do
    let k := (← token).keyword
    if ["BTREE", "HASH", "GIN", "GIST", "SPGIST", "BRIN", "BLOOM"].contains k then
      skip
      return words k
    else return Phrase.ident (← ident)

-- A constraint on a whole table, if one is next.
def tableConstraint? (r : Rules) : Parser (Option (List Piece)) := do
  let d ← dialect
  let label ← after? "CONSTRAINT" ident
  let head := match label with
    | some id => words "CONSTRAINT " ++ Phrase.ident id ++ words " "
    | none => []
  let l ← lexeme
  let indexed (k : String) : Parser (Option (List Piece)) := do
    let name ← (do if ← peekKeyword "USING" then return none else optionalIdent)
    let type ← indexType?
    let columns ← indexColumns r
    return some (head ++ words k ++ option " " Phrase.ident name ++ option " USING " id type ++
      words " " ++ columns ++ (← characteristics))
  match l.token.keyword with
  | "UNIQUE" =>
    skip
    let mark ← (do
      if d.isGeneric || d.isMysql then oneOf? ["KEY", "INDEX"] else return none)
    indexed ("UNIQUE" ++ (mark.map (" " ++ ·)).getD "")
  | "PRIMARY" =>
    skip
    expectKeyword "KEY"
    indexed "PRIMARY KEY"
  | "FOREIGN" =>
    skip
    expectKeyword "KEY"
    let name ← optionalIdent
    let columns ← columnList true false ident
    expectKeyword "REFERENCES"
    let table ← Parser.name
    let referred ← columnList false false ident
    let actions ← reactions
    return some (head ++ words "FOREIGN KEY" ++ option " " Phrase.ident name ++ words " " ++
      Phrase.parens (Phrase.idents columns) ++ words " REFERENCES " ++ Phrase.name table ++
      Phrase.list "" (fun ids => Phrase.parens (Phrase.idents ids)) referred ++ actions ++
      (← characteristics))
  | "CHECK" =>
    skip
    return some (head ++ (← check r))
  | k =>
    if (k == "INDEX" || k == "KEY") && (d.isGeneric || d.isMysql) && label.isNone then
      skip
      indexed k
    else if label.isSome then
      skip
      expectedAt "PRIMARY, UNIQUE, FOREIGN, or CHECK" l
    else return none

-- The columns and constraints of a table, in parentheses. Columns are written first.
def tableElements (r : Rules) : Parser (List Piece) := do
  if !(← symbol? "(") then return []
  if ← symbol? ")" then return []
  let (columns, constraints, _) ← repeated
    (fun ((columns, constraints, done) : List (List Piece) × List (List Piece) × Bool) => do
      if done then return none
      let (columns, constraints) ← (do
        match ← tableConstraint? r with
        | some c => return (columns, constraints ++ [c])
        | none =>
          if (← token).isWord then return (columns ++ [← columnDefinition r], constraints)
          else expected "column name or constraint definition")
      let comma ← symbol? ","
      let closing ← peekSymbol ")"
      if !comma && !closing then expected "',' or ')' after column definition"
      if !comma then
        skip
        return some (columns, constraints, true)
      return some (columns, constraints, false)) ([], [], false)
  return Phrase.parens (Phrase.commas (columns ++ constraints))

end SqlLens.Sql.Parser
