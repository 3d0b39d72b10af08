import SqlLens.Text.Casing
import SqlLens.Text.Search

namespace SqlLens.Render

-- Words that cannot stand as a bare name.
def reservedWords : List String := [
  "all", "analyse", "analyze", "and", "any", "array", "as", "asc", "asymmetric",
  "authorization", "binary", "both", "case", "cast", "check", "collate", "collation", "column",
  "concurrently", "constraint", "create", "cross", "current_catalog", "current_date",
  "current_role", "current_schema", "current_time", "current_timestamp", "current_user",
  "default", "deferrable", "desc", "distinct", "do", "else", "end", "except", "false", "fetch",
  "for", "foreign", "freeze", "from", "full", "grant", "group", "having", "ilike", "in",
  "initially", "inner", "intersect", "into", "is", "isnull", "join", "lateral", "leading",
  "left", "like", "limit", "localtime", "localtimestamp", "natural", "not", "notnull", "null",
  "offset", "on", "only", "or", "order", "outer", "overlaps", "placing", "primary",
  "references", "returning", "right", "select", "session_user", "similar", "some", "symmetric",
  "system_user", "table", "tablesample", "then", "to", "trailing", "true", "union", "unique",
  "user", "using", "variadic", "verbose", "when", "where", "window", "with"]

def isLowercase (c : Char) : Bool := 'a' ≤ c && c ≤ 'z'

def startsPlain (c : Char) : Bool := isLowercase c || c == '_'

def continuesPlain (c : Char) : Bool :=
  isLowercase c || Text.isAsciiDigit c || c == '_' || c == '$'

-- A name that keeps its spelling without quotes.
def isPlain (name : String) : Bool :=
  match name.toList with
  | [] => false
  | c :: cs => startsPlain c && cs.all continuesPlain && !reservedWords.contains name

-- The text between two marks; a mark inside is written twice.
def enclose (mark : Char) (s : String) : String :=
  .ofList (mark :: Text.replaceChar mark [mark, mark] s.toList ++ [mark])

def quoteIdent (name : String) : String :=
  if isPlain name then name else enclose '\x22' name

def quoteIdents (names : List String) : String :=
  ", ".intercalate (names.map quoteIdent)

def quoteString (s : String) : String := enclose '\x27' s

end SqlLens.Render
