import Inflection.CommandLine.Arguments
import Inflection.Report

/-!
# What the command does

The command loads rules, prints what they declare if asked to, and prints the
conjugation of each verb in turn.  It stops at the first verb whose rules are
broken; what was printed before stays.  The exit code tells the worst that
happened: zero if every verb was found, one if some verb has no rule, and two if
anything failed.
-/

namespace Inflection.CommandLine

open Inflection.Rules

/-- How a run ends. -/
inductive Ending where
  | allFound
  | someNotFound
  | failed (message : String)
  deriving DecidableEq, Repr

/-- The exit code of a run. -/
def Ending.exitCode : Ending → Nat
  | .allFound => 0
  | .someNotFound => 1
  | .failed _ => 2

/-- The ending of a run in which a verb was looked up first. -/
def Ending.behind (found : Bool) : Ending → Ending
  | .allFound => if found then .allFound else .someNotFound
  | ending => ending

/-- The exit code for arguments that are refused. -/
def usageExitCode : Nat :=
  2

/-- What a run prints, and how it ends. -/
structure RunResult where
  output : String
  ending : Ending
  deriving DecidableEq, Repr

/-- The line that tells of a failure: what was being done, what went wrong, and
what others say about it. -/
def errorLine (context message : String) (cause : Option String) : String :=
  "Error: " ++ ": ".intercalate (context :: message :: cause.toList)

/-- The line for rules that cannot be loaded. -/
def setupFailure
    (language : String)
    (complaints : Complaints)
    (error : SetupError) :
    String :=
  errorLine s!"Could not load the rules for `{language}`"
    (error.message complaints) (error.cause? complaints)

/-- The line for a verb whose rules are broken. -/
def verbFailure (verb : String) (error : BrokenRules) : String :=
  errorLine s!"The rules for `{verb}` are broken" error.message none

/-- Prints the conjugations of some verbs, up to the first whose
rules are broken. -/
def runVerbs (inflector : Inflector) : List String → RunResult
  | [] => ⟨"", .allFound⟩
  | verb :: verbs =>
    match inflector.conjugate verb with
    | .error error => ⟨"", .failed (verbFailure verb error)⟩
    | .ok found =>
      let rest := runVerbs inflector verbs
      ⟨Report.verbBlock verb found ++ rest.output,
        rest.ending.behind found.isSome⟩

/-- Runs the command with an inflector, or with the reason why there is none. -/
def run
    (arguments : Arguments)
    (complaints : Complaints)
    (setup : Except SetupError Inflector) :
    RunResult :=
  match setup with
  | .error error =>
    ⟨"", .failed (setupFailure arguments.languageCode complaints error)⟩
  | .ok inflector =>
    let rest := runVerbs inflector arguments.verbs
    if arguments.list then
      ⟨Report.declared inflector.book ++ rest.output, rest.ending⟩
    else
      rest

/-- The path of the rule file that the arguments ask for; `standard` is the
directory used if they name none. -/
def Arguments.rulePath (arguments : Arguments) (standard : String) : String :=
  ruleFilePath (arguments.directory.getD standard) arguments.languageCode

/-- Runs the command with the rule file at a path, given by what reading it came
to and by what is said about it if it is refused. -/
def runWithFile
    (arguments : Arguments)
    (path : String)
    (content : Except ReadFailure ByteArray)
    (complaints : Complaints := {}) :
    RunResult :=
  run arguments complaints
    (Inflector.ofFile arguments.languageCode path content arguments.filter)

end Inflection.CommandLine
