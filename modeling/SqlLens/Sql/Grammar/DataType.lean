import SqlLens.Sql.Grammar.Name

namespace SqlLens.Sql

-- Kinds of types that expressions treat in ways of their own.
inductive TypeKind where
  | builtin
  | interval
  | binary
  | custom
deriving DecidableEq, Repr

namespace DataType

def ofText (s : String) : DataType := [.text s]

-- Types without parameters and how they are written.
def simple : List (String × String) :=
  [("BOOLEAN", "BOOLEAN"), ("BOOL", "BOOL"), ("FLOAT4", "FLOAT4"), ("FLOAT32", "Float32"),
    ("FLOAT64", "FLOAT64"), ("FLOAT8", "FLOAT8"), ("INT16", "Int16"), ("INT32", "Int32"),
    ("INT64", "INT64"), ("INT128", "Int128"), ("INT256", "Int256"), ("UINT8", "UInt8"),
    ("UINT16", "UInt16"), ("UINT32", "UInt32"), ("UINT64", "UInt64"), ("UINT128", "UInt128"),
    ("UINT256", "UInt256"), ("HUGEINT", "HUGEINT"), ("UHUGEINT", "UHUGEINT"),
    ("UBIGINT", "UBIGINT"), ("USMALLINT", "USMALLINT"), ("UTINYINT", "UTINYINT"),
    ("TINYBLOB", "TINYBLOB"), ("MEDIUMBLOB", "MEDIUMBLOB"), ("LONGBLOB", "LONGBLOB"),
    ("UUID", "UUID"), ("DATE", "DATE"), ("DATE32", "Date32"), ("JSON", "JSON"),
    ("JSONB", "JSONB"), ("REGCLASS", "REGCLASS"), ("TEXT", "TEXT"), ("TINYTEXT", "TINYTEXT"),
    ("MEDIUMTEXT", "MEDIUMTEXT"), ("LONGTEXT", "LONGTEXT"), ("BYTEA", "BYTEA"),
    ("TRIGGER", "TRIGGER")]

-- Whole numbers, with a display width and a word on their sign.
def integers : List String :=
  ["TINYINT", "INT2", "SMALLINT", "MEDIUMINT", "INT", "INT4", "INT8", "INTEGER", "BIGINT"]

-- Types with an optional length.
def sized : List String :=
  ["CLOB", "BLOB", "BYTES", "STRING", "VARBIT", "DATETIME"]

-- Numbers with digits before and behind the point, and whether a sign may be given.
def decimals : List (String × Bool) :=
  [("NUMERIC", false), ("DECIMAL", true), ("DEC", true), ("BIGNUMERIC", false),
    ("BIGDECIMAL", false), ("FLOAT", true)]

def shapes : List String := ["POINT", "LINE", "LSEG", "BOX", "PATH", "POLYGON", "CIRCLE"]

end DataType

namespace Parser

open DataType (ofText)

-- A number in parentheses.
def size? : Parser (Option Nat) := do
  if ← symbol? "(" then
    let n ← natural
    expectSymbol ")"
    return some n
  else return none

def sizeText : Option Nat → String
  | some n => "(" ++ toString n ++ ")"
  | none => ""

def optionalSize : Parser String := return sizeText (← size?)

-- A whole number with or without a sign.
def signed : Parser String := do
  let sign ← (do
    if ← symbol? "-" then return "-"
    let _ ← symbol? "+"
    return "")
  return sign ++ toString (← natural)

def optionalDigits : Parser String := do
  if !(← symbol? "(") then return ""
  let precision ← natural
  let scale ← (do if ← symbol? "," then return "," ++ (← signed) else return "")
  expectSymbol ")"
  return "(" ++ toString precision ++ scale ++ ")"

-- A length in characters or bytes.
def optionalLength : Parser String := do
  if !(← symbol? "(") then return ""
  let text ← (do
    if ← keyword? "MAX" then return "MAX"
    let n ← natural
    match ← oneOf? ["CHARACTERS", "OCTETS"] with
    | some unit => return toString n ++ " " ++ unit
    | none => return toString n)
  expectSymbol ")"
  return "(" ++ text ++ ")"

-- Whether types may say that their numbers have a sign.
def signSuffix : Parser Bool := return (← dialect).isGeneric || (← dialect).isMysql

def optionalUnsigned : Parser String := do
  if ← signSuffix then
    if ← keyword? "UNSIGNED" then return " UNSIGNED"
  return ""

def timeZone : Parser String := do
  if ← keyword? "WITH" then
    expectKeywords ["TIME", "ZONE"]
    return " WITH TIME ZONE"
  else if ← keyword? "WITHOUT" then
    expectKeywords ["TIME", "ZONE"]
    return " WITHOUT TIME ZONE"
  else return ""

-- The words in parentheses behind the name of a custom type.
def typeModifiers : Parser (List String) := do
  if !(← symbol? "(") then return []
  let (words, _) ← repeated (fun (words, done) => do
    if done then return none
    let l ← next
    match l.token with
    | .word .. => return some (l.token.text :: words, false)
    | .number digits _ => return some (digits :: words, false)
    | .string .single text => return some (text :: words, false)
    | .symbol "," => return some (words, false)
    | .symbol ")" => return some (words, true)
    | _ => expectedAt "type modifiers" l) ([], false)
  return words.reverse

def customType : Parser DataType := do
  let name ← name
  let modifiers ← typeModifiers
  let words : DataType := (name.map Atom.name).intersperse (.text ".")
  return if modifiers.isEmpty then words else words ++ ofText ("(" ++ commas modifiers ++ ")")

-- The bracket that closes a type. `>>` closes two types at once.
def closeAngle (closed : Bool) : Parser Bool := do
  if closed then return false
  if ← symbol? ">" then return false
  if ← symbol? ">>" then return true
  expected ">"

def whole (t : DataType × Bool) : Parser DataType := do
  if t.2 then
    fail ("unmatched > after parsing data type " ++ t.1.toText ++ (← token).text)
  else return t.1

-- A type that stands alone.
def typeName (r : Rules) : Parser DataType := do whole (← r.dataType)

-- A type in parentheses behind the name of a type.
def wrapped (r : Rules) (name : String) : Parser DataType := do
  let inner ← parenthesized (typeName r)
  return ofText (name ++ "(") ++ inner ++ ofText ")"

def field (r : Rules) : Parser (DataType × Bool) := do
  let named := (← token).isWord && ((← tokenAt 1).isWord || (← tokenAt 1).isSymbol ":")
  let label : DataType ← (do
    if named then
      let id ← ident
      let _ ← symbol? ":"
      return [.name id, .text " "]
    else return [])
  let (type, closed) ← r.dataType
  return (label ++ type, closed)

def structType (r : Rules) : Parser (DataType × Bool) := do
  if !(← symbol? "<") then return (ofText "STRUCT", false)
  let first ← field r
  let (words, closed) ← repeated (fun (words, closed) => do
    if closed then return none
    if ← symbol? "," then
      let (more, closed) ← field r
      return some (words ++ ofText ", " ++ more, closed)
    else return none) first
  return (ofText "STRUCT<" ++ words ++ ofText ">", ← closeAngle closed)

def quotedList : Parser String := do
  let texts ← commaSeparated do
    let l ← next
    match l.token with
    | .string .single text => return "\x27" ++ text ++ "\x27"
    | _ => expectedAt "a string" l
  return commas texts

-- A type that begins with a keyword, if the keyword names one.
def keywordType? (r : Rules) (k : String) : Parser (Option (TypeKind × DataType × Bool)) := do
  let d ← dialect
  let plain (s : String) : Parser (Option (TypeKind × DataType × Bool)) :=
    return some (.builtin, ofText s, false)
  let nested (t : DataType) : Parser (Option (TypeKind × DataType × Bool)) :=
    return some (.builtin, t, false)
  if let some text := DataType.simple.lookup k then
    skip
    plain text
  else if DataType.integers.contains k then
    skip
    let size ← optionalSize
    if ← keyword? "UNSIGNED" then plain (k ++ size ++ " UNSIGNED")
    else
      if ← signSuffix then let _ ← keyword? "SIGNED"
      plain (k ++ size)
  else if DataType.sized.contains k then
    skip
    plain (k ++ (← optionalSize))
  else if let some sign := DataType.decimals.lookup k then
    skip
    let digits ← optionalDigits
    if sign then plain (k ++ digits ++ (← optionalUnsigned)) else plain (k ++ digits)
  else match k with
  | "REAL" =>
    skip
    plain ("REAL" ++ (← optionalUnsigned))
  | "DOUBLE" =>
    skip
    if ← keyword? "PRECISION" then plain ("DOUBLE PRECISION" ++ (← optionalUnsigned))
    else
      let digits ← optionalDigits
      plain ("DOUBLE" ++ digits ++ (← optionalUnsigned))
  | "VARCHAR" | "NVARCHAR" | "VARBINARY" =>
    skip
    plain (k ++ (← optionalLength))
  | "CHARACTER" | "CHAR" =>
    skip
    if ← keyword? "VARYING" then plain (k ++ " VARYING" ++ (← optionalLength))
    else if ← keywords? ["LARGE", "OBJECT"] then plain (k ++ " LARGE OBJECT" ++ (← optionalSize))
    else plain (k ++ (← optionalLength))
  | "BINARY" =>
    skip
    return some (.binary, ofText (k ++ (← optionalSize)), false)
  | "BIT" =>
    skip
    if ← keyword? "VARYING" then plain ("BIT VARYING" ++ (← optionalSize))
    else plain ("BIT" ++ (← optionalSize))
  | "DATETIME64" =>
    skip
    expectSymbol "("
    let precision ← natural
    let zone ← (do
      if ← symbol? "," then return ", \x27" ++ (← stringLiteral) ++ "\x27" else return "")
    expectSymbol ")"
    plain ("DateTime64(" ++ toString precision ++ zone ++ ")")
  | "TIMESTAMP" | "TIME" =>
    skip
    let size ← optionalSize
    plain (k ++ size ++ (← timeZone))
  | "TIMESTAMPTZ" | "TIMETZ" | "TIMESTAMP_NTZ" =>
    skip
    plain (k ++ (← optionalSize))
  | "INTERVAL" =>
    skip
    return some (.interval, ofText "INTERVAL", false)
  | "FIXEDSTRING" =>
    skip
    expectSymbol "("
    let n ← natural
    expectSymbol ")"
    plain ("FixedString(" ++ toString n ++ ")")
  | "ENUM" | "SET" =>
    skip
    plain (k ++ "(" ++ (← parenthesized quotedList) ++ ")")
  | "ARRAY" =>
    skip
    if d.isClickhouse then nested (← wrapped r "Array")
    else
      expectSymbol "<"
      let (inner, closed) ← r.dataType
      let closed ← closeAngle closed
      return some (.builtin, ofText "ARRAY<" ++ inner ++ ofText ">", closed)
  | "STRUCT" =>
    if d.isGeneric then
      skip
      let (t, closed) ← structType r
      return some (.builtin, t, closed)
    else return none
  | "NULLABLE" | "LOWCARDINALITY" =>
    if d.isGeneric || d.isClickhouse then
      skip
      nested (← wrapped r (if k == "NULLABLE" then "Nullable" else "LowCardinality"))
    else return none
  | "MAP" =>
    if d.isGeneric || d.isClickhouse then
      skip
      expectSymbol "("
      let key ← typeName r
      expectSymbol ","
      let value ← typeName r
      expectSymbol ")"
      nested (ofText "Map(" ++ key ++ ofText ", " ++ value ++ ofText ")")
    else return none
  | "TUPLE" =>
    if d.isGeneric || d.isClickhouse then
      skip
      let fields ← parenthesized (commaSeparated do whole (← field r))
      nested (ofText "Tuple(" ++ (fields.intersperse (ofText ", ")).flatten ++ ofText ")")
    else return none
  | "ANY" =>
    if ← keywords? ["ANY", "TYPE"] then plain "ANY TYPE" else return none
  | "TABLE" =>
    if (← tokenAt 1).isSymbol "(" then return none
    skip
    plain "TABLE"
  | "SIGNED" | "UNSIGNED" =>
    skip
    if ← keyword? "INTEGER" then plain (k ++ " INTEGER") else plain k
  | "TSVECTOR" | "TSQUERY" =>
    if d.isGeneric || d.isPostgresql then
      skip
      plain k
    else return none
  | _ =>
    if d.hasGeometry && DataType.shapes.contains k then
      skip
      plain k
    else return none

-- A type with what is known of it.
def readType (r : Rules) : Parser (TypeKind × DataType × Bool) := do
  let l ← lexeme
  if !l.token.isWord then expectedAt "a data type name" l
  let (kind, type, closed) ← (do
    match ← keywordType? r l.token.keyword with
    | some found => return found
    | none => return (.custom, ← customType, false))
  let d ← dialect
  if !(d.isGeneric || d.isPostgresql) then return (kind, type, closed)
  repeated (fun (_, type, closed) => do
    if ← symbol? "[" then
      let size ← attempt natural
      expectSymbol "]"
      let suffix := match size with
        | some n => "[" ++ toString n ++ "]"
        | none => "[]"
      return some (.builtin, type ++ ofText suffix, closed)
    else return none) (kind, type, closed)

def dataType (r : Rules) : Parser (DataType × Bool) := return (← readType r).2

-- Names of columns, each with or without a type.
def aliasColumns (r : Rules) : Parser (List AliasColumn) :=
  columnList false false do
    let name ← ident
    return ⟨name, ← attempt (typeName r)⟩

def tableAlias? (r : Rules) : Parser (Option Alias) := do
  let explicit ← peekKeyword "AS"
  match ← tableAliasName? with
  | some name => return some ⟨explicit, name, ← aliasColumns r⟩
  | none => return none

end Parser

end SqlLens.Sql
