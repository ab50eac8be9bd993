import Inflection.Filter

/-!
# Arguments of the command line

The command takes options and verbs, in any order.  An option has a long name,
and some have a letter. Letters can be joined behind one hyphen.  A value
follows its option as the next argument, behind an equals sign, or directly
behind the letter.  After `--`, everything is a verb.

Options that restrict the output may be given several times; the others only
once, apart from the one that asks for more log lines.
-/

namespace Inflection.CommandLine

open Inflection.Rules

/-- The options that take a value. -/
inductive Setting where
  | language
  | directory
  | form
  | exceptForm
  | paradigm
  | exceptParadigm
  deriving DecidableEq, Repr

/-- The options without a value. -/
inductive Switch where
  | list
  | verbose
  | help
  deriving DecidableEq, Repr

/-- The options. -/
inductive Flag where
  | setting (setting : Setting)
  | switch (switch : Switch)
  deriving DecidableEq, Repr

/-- The option with this long name. -/
def Flag.named? (name : String) : Option Flag :=
  match name with
  | "lang" => some (.setting .language)
  | "data-dir" => some (.setting .directory)
  | "form" => some (.setting .form)
  | "except-form" => some (.setting .exceptForm)
  | "paradigm" => some (.setting .paradigm)
  | "except-paradigm" => some (.setting .exceptParadigm)
  | "list" => some (.switch .list)
  | "verbose" => some (.switch .verbose)
  | "help" => some (.switch .help)
  | _ => none

/-- The option with this letter. -/
def Flag.lettered? (letter : Char) : Option Flag :=
  match letter with
  | 'l' => some (.setting .language)
  | 'd' => some (.setting .directory)
  | 'f' => some (.setting .form)
  | 'p' => some (.setting .paradigm)
  | 'v' => some (.switch .verbose)
  | 'h' => some (.switch .help)
  | _ => none

/-- Why arguments are refused. -/
inductive UsageError where
  | unknownOption (name : String)
  | missingValue
  | unexpectedValue (name : String)
  | repeatedOption
  | notAParadigm (text : String)
  /-- Nothing is wrong, but only help is wanted. -/
  | helpWanted
  deriving DecidableEq, Repr

/-- The message of a usage error. -/
def UsageError.message : UsageError → String
  | .unknownOption name => s!"there is no option {name}"
  | .missingValue => "an option lacks its value"
  | .unexpectedValue name => s!"the option {name} takes no value"
  | .repeatedOption => "an option is given more than once"
  | .notAParadigm text => (FilterError.notAParadigm text).message
  | .helpWanted =>
    "usage: [-l LANG] [-d DIR] [-f FORM] [--except-form FORM] [-p PARADIGM] " ++
      "[--except-paradigm PARADIGM] [--list] [-v] [VERB]..."

/-- What the command is asked for. -/
structure Arguments where
  language : Option String := none
  directory : Option String := none
  forms : List String := []
  formsExcept : List String := []
  paradigms : List Paradigm := []
  paradigmsExcept : List Paradigm := []
  list : Bool := false
  verbosity : Nat := 0
  verbs : List String := []
  deriving DecidableEq, Repr

namespace Arguments

/-- The language whose rules are used, French if none is named. -/
def languageCode (arguments : Arguments) : String :=
  arguments.language.getD "fr"

/-- What the arguments say about forms and paradigms.  Naming none means all. -/
def filter (arguments : Arguments) : Filter where
  forms := if arguments.forms.isEmpty then none else some arguments.forms
  formsExcept := arguments.formsExcept
  paradigms :=
    if arguments.paradigms.isEmpty then none else some arguments.paradigms
  paradigmsExcept := arguments.paradigmsExcept

/-- Adds a verb. -/
def addVerb (arguments : Arguments) (verb : String) : Arguments :=
  { arguments with verbs := arguments.verbs ++ [verb] }

/-- Reads a paradigm as the value of an option. -/
def readParadigm (value : String) : Except UsageError Paradigm :=
  (Paradigm.parse value).mapError fun _ => .notAParadigm value

/-- Gives an option its value. -/
def set (arguments : Arguments) (setting : Setting) (value : String) :
    Except UsageError Arguments :=
  match setting with
  | .language =>
    if arguments.language.isSome then .error .repeatedOption
    else .ok { arguments with language := some value }
  | .directory =>
    if arguments.directory.isSome then .error .repeatedOption
    else .ok { arguments with directory := some value }
  | .form => .ok { arguments with forms := arguments.forms ++ [value] }
  | .exceptForm =>
    .ok { arguments with formsExcept := arguments.formsExcept ++ [value] }
  | .paradigm => do
    let paradigm ← readParadigm value
    .ok { arguments with paradigms := arguments.paradigms ++ [paradigm] }
  | .exceptParadigm => do
    let paradigm ← readParadigm value
    .ok { arguments with
      paradigmsExcept := arguments.paradigmsExcept ++ [paradigm] }

/-- Turns on an option without a value. -/
def turnOn
    (arguments : Arguments)
    (switch : Switch) :
    Except UsageError Arguments :=
  match switch with
  | .list =>
    if arguments.list then .error .repeatedOption
    else .ok { arguments with list := true }
  | .verbose => .ok { arguments with verbosity := arguments.verbosity + 1 }
  | .help => .error .helpWanted

end Arguments

/-- How far the arguments have been read: what they ask for, the option whose
value comes next, and whether only verbs follow. -/
structure Scan where
  arguments : Arguments := {}
  pending : Option Setting := none
  onlyVerbs : Bool := false

namespace Scan

/-- Goes on with other arguments asked for. -/
def with?
    (scan : Scan)
    (arguments : Except UsageError Arguments) :
    Except UsageError Scan :=
  arguments.map fun arguments => { scan with arguments := arguments }

/-- Reads letters behind a hyphen.  The first that takes a value takes the rest,
or else the next argument. -/
def readLetters (scan : Scan) : List Char → Except UsageError Scan
  | [] => .ok scan
  | letter :: rest =>
    match Flag.lettered? letter with
    | none => .error (.unknownOption (String.ofList ['-', letter]))
    | some (.switch switch) =>
      match scan.arguments.turnOn switch with
      | .error error => .error error
      | .ok arguments => readLetters { scan with arguments := arguments } rest
    | some (.setting setting) =>
      match rest with
      | [] => .ok { scan with pending := some setting }
      | '=' :: value =>
        scan.with? (scan.arguments.set setting (String.ofList value))
      | value => scan.with? (scan.arguments.set setting (String.ofList value))

/-- Reads what follows two hyphens: a long name, with a value behind an equals
sign if there is one. -/
def readLong (scan : Scan) (content : List Char) : Except UsageError Scan :=
  let (name, rest) := content.span (· != '=')
  let name := String.ofList name
  match Flag.named? name, rest with
  | none, _ => .error (.unknownOption ("--" ++ name))
  | some (.switch switch), [] => scan.with? (scan.arguments.turnOn switch)
  | some (.switch _), _ :: _ => .error (.unexpectedValue ("--" ++ name))
  | some (.setting setting), [] => .ok { scan with pending := some setting }
  | some (.setting setting), _ :: value =>
    scan.with? (scan.arguments.set setting (String.ofList value))

/-- Tells whether an argument looks like an option.  A hyphen alone does not. -/
def looksLikeOption (argument : String) : Bool :=
  match argument.toList with
  | '-' :: _ :: _ => true
  | _ => false

/-- Reads one argument. -/
def step (scan : Scan) (argument : String) : Except UsageError Scan :=
  if scan.onlyVerbs then
    .ok { scan with arguments := scan.arguments.addVerb argument }
  else
    match scan.pending with
    | some setting =>
      if looksLikeOption argument then .error .missingValue
      else
        (scan.arguments.set setting argument).map fun arguments =>
          { scan with arguments := arguments, pending := none }
    | none =>
      match argument.toList with
      | ['-', '-'] => .ok { scan with onlyVerbs := true }
      | '-' :: '-' :: content => scan.readLong content
      | '-' :: letter :: letters => scan.readLetters (letter :: letters)
      | _ => .ok { scan with arguments := scan.arguments.addVerb argument }

/-- What all arguments ask for; no option may be left without its value. -/
def finish (scan : Scan) : Except UsageError Arguments :=
  if scan.pending.isSome then .error .missingValue else .ok scan.arguments

end Scan

/-- Reads the arguments of the command. -/
def Arguments.parse
    (arguments : List String) :
    Except UsageError Arguments := do
  let scan ← arguments.foldlM Scan.step {}
  scan.finish

end Inflection.CommandLine
