import SqlLens.Text.Letter

namespace SqlLens

inductive Dialect where
  | generic
  | mysql
  | postgresql
  | sqlite
  | clickhouse
deriving DecidableEq, Hashable, Repr

namespace Dialect

def all : List Dialect := [.generic, .mysql, .postgresql, .sqlite, .clickhouse]

def name : Dialect → String
  | .generic    => "Generic"
  | .mysql      => "MySQL"
  | .postgresql => "PostgreSQL"
  | .sqlite     => "SQLite"
  | .clickhouse => "ClickHouse"

open Text

def opensName (d : Dialect) (c : Char) : Bool :=
  match d with
  | .generic => isLetter c || c == '_' || c == '#' || c == '@'
  | .mysql => isAsciiLetter c || c == '_' || c == '$' || c == '@' || !isAscii c
  | .postgresql => isLetter c || c == '_' || !isAscii c
  | .sqlite => isAsciiLetter c || c == '_' || c.toNat == 127 || !isAscii c
  | .clickhouse => isAsciiLetter c || c == '_'

def continuesName (d : Dialect) (c : Char) : Bool :=
  match d with
  | .generic => isLetter c || isAsciiDigit c || c == '@' || c == '$' || c == '#' || c == '_'
  | .mysql => d.opensName c || isAsciiDigit c
  | .postgresql => isLetter c || isAsciiDigit c || c == '$' || c == '_' || !isAscii c
  | .sqlite => d.opensName c || isAsciiDigit c
  | .clickhouse => d.opensName c || isAsciiDigit c

-- The marks around a name that is not to be read as a word.
def opensQuotedName (d : Dialect) (c : Char) : Bool :=
  match d with
  | .generic | .clickhouse => c == '\x22' || c == '\x60'
  | .mysql => c == '\x60'
  | .postgresql => c == '\x22'
  | .sqlite => c == '\x60' || c == '\x22' || c == '['

-- Characters of which operators of the user's own are made.
def continuesOperator (d : Dialect) (c : Char) : Bool :=
  d == .postgresql && "+-*/<>=~!@#%^&|\x60?".toList.contains c

def isGeneric (d : Dialect) : Bool := d == .generic
def isMysql (d : Dialect) : Bool := d == .mysql
def isPostgresql (d : Dialect) : Bool := d == .postgresql
def isSqlite (d : Dialect) : Bool := d == .sqlite
def isClickhouse (d : Dialect) : Bool := d == .clickhouse

-- A backslash in a string escapes the next character.
def escapesByBackslash (d : Dialect) : Bool := d.isMysql || d.isClickhouse

-- An escaped wildcard keeps its backslash.
def keepsWildcardEscapes (d : Dialect) : Bool := d.isMysql

-- Names may begin with digits.
def hasNumericNames (d : Dialect) : Bool := d.isMysql

def hasDigitSeparators (d : Dialect) : Bool := d.isPostgresql || d.isClickhouse

def hasEscapedStrings (d : Dialect) : Bool := d.isGeneric || d.isPostgresql

def hasUnicodeStrings (d : Dialect) : Bool := d.isGeneric || d.isPostgresql

def hasDelimitedStrings (d : Dialect) : Bool := d.isGeneric

def hasByteStrings (d : Dialect) : Bool := d.isGeneric || d.isPostgresql || d.isMysql

def hasRawStrings (d : Dialect) : Bool := d.isGeneric

def hasNestedComments (d : Dialect) : Bool := d.isGeneric || d.isPostgresql || d.isClickhouse

-- `--` begins a comment only before a blank.
def needsBlankAfterDashes (d : Dialect) : Bool := d.isMysql

def hasHashComments (d : Dialect) : Bool := d.isMysql

-- `$` marks a parameter and never a quoted string.
def hasDollarParams (d : Dialect) : Bool := d.isSqlite

def hasPipes (d : Dialect) : Bool := d.isGeneric

def hasGeometry (d : Dialect) : Bool := d.isPostgresql

def hasShifts (d : Dialect) : Bool := d.isGeneric || d.isPostgresql

def hasIntegerDivision (d : Dialect) : Bool := d.isGeneric

-- A comma may stand behind the last item of a select list.
def allowsTrailingComma (d : Dialect) : Bool := d.isGeneric

def allowsEmptyProjection (d : Dialect) : Bool := d.isGeneric || d.isPostgresql

def allowsFromFirst (d : Dialect) : Bool := d.isGeneric || d.isClickhouse

def allowsEmptyInList (d : Dialect) : Bool := d.isSqlite

def hasNotNullOperator (d : Dialect) : Bool := d.isSqlite || d.isPostgresql

def hasLambdas (d : Dialect) : Bool := d.isClickhouse

def hasGroupBySets (d : Dialect) : Bool := d.isGeneric || d.isPostgresql || d.isClickhouse

def hasGroupByModifiers (d : Dialect) : Bool := d.isGeneric || d.isMysql || d.isClickhouse

def hasOrderByAll (d : Dialect) : Bool := d.isClickhouse

def hasLimitComma (d : Dialect) : Bool :=
  d.isGeneric || d.isMysql || d.isSqlite || d.isClickhouse

def needsIntervalUnit (d : Dialect) : Bool := d.isMysql || d.isClickhouse

def hasFilterClause (d : Dialect) : Bool :=
  d.isGeneric || d.isPostgresql || d.isSqlite

def hasNullTreatmentArgument (d : Dialect) : Bool := d.isGeneric

def hasDictionaries (d : Dialect) : Bool := d.isGeneric || d.isClickhouse

def hasMatchAgainst (d : Dialect) : Bool := d.isGeneric || d.isMysql

def hasStructs (d : Dialect) : Bool := d.isGeneric

def hasMaps (d : Dialect) : Bool := d.isGeneric

def hasTryConvert (d : Dialect) : Bool := d.isGeneric

def hasConnectBy (d : Dialect) : Bool := d.isGeneric

def hasMatchRecognize (d : Dialect) : Bool := d.isGeneric

end Dialect

end SqlLens
