import SqlLens.Command.Run

namespace SqlLens.Main

-- The cause of a failure in the words of the system.
def causeOf : IO.Error → String
  | .noFileOrDirectory .. => "No such file or directory (os error 2)"
  | .permissionDenied .. => "Permission denied (os error 13)"
  | .inappropriateType .. => "Is a directory (os error 21)"
  | e => toString e

def decode (bytes : ByteArray) : Except String String :=
  match String.fromUTF8? bytes with
  | some text => .ok text
  | none => .error "stream did not contain valid UTF-8"

def readText (name : String) : IO (Except String String) := do
  try return decode (← IO.FS.readBinFile name)
  catch e => return .error (causeOf e)

-- A file of settings need not be there.
def readSettings (name : String) : IO Config.File := do
  try return some (decode (← IO.FS.readBinFile name))
  catch
    | .noFileOrDirectory .. => return none
    | e => return some (.error (causeOf e))

partial def readAll (input : IO.FS.Stream) (bytes : ByteArray) : IO ByteArray := do
  let more ← input.read 65536
  if more.isEmpty then return bytes else readAll input (bytes ++ more)

-- The queries that the arguments ask for, if they are a command.
def readQueries (args : List String) : IO (Except Error String) := do
  match Command.ofArguments args with
  | .error _ => return .ok ""
  | .ok c =>
    if c.queries == "-" then
      return (decode (← readAll (← IO.getStdin) .empty)).mapError (.file "stdin")
    else return (← readText c.queries).mapError (.file c.queries)

def variableNames : List String :=
  ["SQL_INSPECTOR_MAX_LENGTH", "SQL_INSPECTOR_DIALECT", "CLICOLOR_FORCE", "NO_COLOR", "CLICOLOR"]

end SqlLens.Main

open SqlLens Main in
def main (args : List String) : IO UInt32 := do
  let values ← variableNames.mapM fun name => do return (name, ← IO.getEnv name)
  let lookup (name : String) : Option String := (values.lookup name).join
  let home ← match ← IO.getEnv "HOME" with
    | some home => readSettings (home ++ "/.config/sql-query-inspector/config.toml")
    | none => pure none
  let here ← readSettings ".sql-query-inspector.toml"
  let queries ← readQueries args
  let terminal ← (← IO.getStdout).isTty
  let outcome := inspect args {
    home, here
    env := .ofVariables lookup
    colors := showsColors lookup terminal
    read := fun _ => queries }
  IO.print outcome.output
  IO.eprint outcome.complaint
  return outcome.exitCode.toUInt32
