import Inflection.CommandLine.Run
import Inflection.French

/-!
# The command

Reads the rule file, runs the command and prints its result.  The rules come
from the directory that is named by an option or else by an environment
variable; without either, from the program itself.
-/

namespace Inflection.CommandLine

open Inflection.Rules

/-- The environment variable that names the directory of the rule files. -/
def directoryVariable : String :=
  "KONJUG_DATA_DIR"

/-- The name that messages give to the rules in the program. -/
def bundledDirectory : String :=
  "data"

/-- What reading the file at a path of the file system comes to. -/
def readRuleFile (path : String) : IO (Except ReadFailure ByteArray) := do
  try
    let content ← IO.FS.readBinFile path
    return .ok content
  catch error =>
    match error with
    | .noFileOrDirectory .. => return .error .missing
    | .inappropriateType .. => return .error .isADirectory
    | other => return .error (.other (toString other))

/-- Runs the command with arguments that were accepted. -/
def runAndPrint (arguments : Arguments) : IO UInt32 := do
  let fromEnvironment ← IO.getEnv directoryVariable
  let named := arguments.directory.or fromEnvironment
  let path := arguments.rulePath (named.getD bundledDirectory)
  if 0 < arguments.verbosity then
    IO.eprintln s!"loading rule file {path}"
  let content ←
    if named.isSome then readRuleFile path
    else pure ((bundledRules bundledDirectory).read path)
  let result := runWithFile arguments path content
  IO.print result.output
  match result.ending with
  | .failed message => IO.eprintln message
  | _ => pure ()
  return result.ending.exitCode.toUInt32

end Inflection.CommandLine

open Inflection.CommandLine in
/-- Runs the command. -/
def main (arguments : List String) : IO UInt32 := do
  match Arguments.parse arguments with
  | .ok accepted => runAndPrint accepted
  | .error .helpWanted =>
    IO.println UsageError.helpWanted.message
    return 0
  | .error error =>
    IO.eprintln s!"error: {error.message}"
    return usageExitCode.toUInt32
