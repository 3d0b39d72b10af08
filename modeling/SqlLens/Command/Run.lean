import SqlLens.Command.Arguments
import SqlLens.Config
import SqlLens.Node.Json
import SqlLens.Node.Sql

namespace SqlLens

-- The statements of a text.
def loadStatements (input : Input) (dialect : Dialect) (content : String) :
    Except Error (List Node) :=
  match input with
  | .sql => Node.ofSql dialect content
  | .json => (Node.ofJson content).mapError fun fault => .tree fault.message

namespace Command

-- The texts behind the names of files, and behind the dash.
abbrev Reader := String → Except Error String

-- The report. Aliases of the command come after those of the settings.
def report (c : Command) (config : Config) (colors : Bool) (statements : List Node) :
    Except Error String := do
  let options : Report.Options := ⟨c.format, colors && !c.noColor⟩
  match c.task with
  | .columns aliases =>
    let aliases ← (aliasEntries aliases).mapError .config
    return Report.columns options (collectColumns statements (config.aliases.entries ++ aliases))
  | .truncate maxLength =>
    let results ← truncateStatements Renderer.sql statements (maxLength.getD config.maxLength)
    return Report.truncations options results

def run (c : Command) (config : Config) (colors : Bool) (read : Reader) : Except Error String := do
  let dialect ← (config.effectiveDialect c.dialect).mapError .config
  let content ← read c.queries
  c.report config colors (← loadStatements c.input dialect content)

end Command

-- What the program finds around it.
structure Surroundings where
  home   : Config.File
  here   : Config.File
  env    : Config.Environment
  -- Whether the output is shown in colours.
  colors : Bool
  read   : Command.Reader

-- The variables that decide about colours: one forces them, and unless it does, one forbids them
-- and one may; a terminal shows them by default.
def showsColors (lookup : String → Option String) (terminal : Bool) : Bool :=
  let decides (name : String) : Option Bool := (lookup name).map (· != "0")
  if decides "CLICOLOR_FORCE" == some true then true
  else if (decides "NO_COLOR").isSome then false
  else terminal && (decides "CLICOLOR").getD true

def Config.Environment.ofVariables (lookup : String → Option String) : Config.Environment :=
  ⟨lookup "SQL_INSPECTOR_MAX_LENGTH", lookup "SQL_INSPECTOR_DIALECT"⟩

structure Outcome where
  exitCode  : Nat
  -- What is written to the output, and to the people at the terminal.
  output    : String := ""
  complaint : String := ""
deriving DecidableEq, Repr

def versionLine : String := "sql-query-inspector 0.1.0\n"

def Usage.message : Usage → String
  | .help | .nothing =>
    "Usage: sql-query-inspector [OPTIONS] <COMMAND>\n\nCommands:\n" ++
      "  columns   List the columns each query filters by\n" ++
      "  truncate  Render each query within a character budget\n" ++
      "  help      Print this message or the help of the given subcommand(s)\n"
  | .version => versionLine
  | .missingSubcommand => "error: a subcommand is required but one was not provided\n"
  | .invalidSubcommand => "error: unrecognized subcommand\n"
  | .missingArgument => "error: the following required arguments were not provided: --queries\n"
  | .unknownArgument => "error: unexpected argument found\n"
  | .conflict => "error: an argument cannot be used multiple times\n"
  | .tooManyValues => "error: unexpected value found\n"
  | .invalidValue => "error: invalid value\n"
  | .notNumber => "error: invalid value: not a number\n"

def Usage.outcome (u : Usage) : Outcome :=
  match u with
  | .help | .version => ⟨u.exitCode, u.message, ""⟩
  | u => ⟨u.exitCode, "", u.message⟩

-- A whole run: arguments, settings, queries, report.
def inspect (args : List String) (w : Surroundings) : Outcome :=
  match Command.ofArguments args with
  | .error usage => usage.outcome
  | .ok c =>
    let result : Except Error String := do
      let config ← (Config.load w.home w.here w.env).mapError .config
      c.run config w.colors w.read
    match result with
    | .ok output => ⟨0, output, ""⟩
    | .error e => ⟨1, "", "Error: " ++ e.message ++ "\n"⟩

end SqlLens
