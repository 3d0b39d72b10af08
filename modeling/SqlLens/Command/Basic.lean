import SqlLens.Report
import SqlLens.Sql.Dialect

namespace SqlLens

-- How queries are given: as SQL, or as serialised trees.
inductive Input where
  | sql
  | json
deriving DecidableEq, Repr

inductive Task where
  -- Lists filter columns, with further aliases.
  | columns (aliases : List String)
  -- Fits statements into a length; the configured one if none is given.
  | truncate (maxLength : Option Nat)
deriving DecidableEq, Repr

structure Command where
  task    : Task
  -- The name of a file, or a dash for standard input.
  queries : String
  dialect : Option Dialect := none
  input   : Input := .sql
  format  : Report.Format := .text
  noColor : Bool := false
  verbose : Bool := false
deriving DecidableEq, Repr

-- Why there is nothing to run: a mistake, or a wish to read about the program.
inductive Usage where
  | help
  | version
  -- Nothing is asked at all.
  | nothing
  | missingSubcommand
  | invalidSubcommand
  | missingArgument
  | unknownArgument
  -- A single-use option occurs twice.
  | conflict
  -- A switch is given a value.
  | tooManyValues
  -- A value that is none of the possible ones, or is missing or empty.
  | invalidValue
  -- A value that is no number.
  | notNumber
deriving DecidableEq, Repr

-- What a shell is told.
def Usage.exitCode : Usage → Nat
  | .help | .version => 0
  | _ => 2

-- The name of a dialect as a value of an option.
def Dialect.word : Dialect → String
  | .generic    => "generic"
  | .mysql      => "mysql"
  | .postgresql => "postgresql"
  | .sqlite     => "sqlite"
  | .clickhouse => "clickhouse"

def Dialect.ofWord? (word : String) : Option Dialect := Dialect.all.find? (·.word == word)

def Input.word : Input → String
  | .sql  => "sql"
  | .json => "json"

def Input.ofWord? (word : String) : Option Input := [Input.sql, .json].find? (·.word == word)

def Report.Format.word : Report.Format → String
  | .text => "text"
  | .json => "json"
  | .yaml => "yaml"

def Report.Format.ofWord? (word : String) : Option Report.Format :=
  [Report.Format.text, .json, .yaml].find? (·.word == word)

end SqlLens
