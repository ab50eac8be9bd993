/-!
# What can go wrong with rules

Three kinds of failure.  A rule file may be impossible to load; a filter may
name what the rules do not declare; and the rules for one verb may be broken,
which shows only when it is conjugated.  Each failure is a cause, and its
wording is in one function.

That no rule matches a verb is no failure.
-/

namespace Inflection.Rules

/-- Why a rule file cannot be read. -/
inductive ReadFailure where
  | missing
  | notADirectory
  | isADirectory
  | nameTooLong
  | notText
  | other (description : String)
  deriving DecidableEq, Repr

/-- The description of a failure to read, as systems word it. -/
def ReadFailure.message : ReadFailure → String
  | .missing => "No such file or directory (os error 2)"
  | .notADirectory => "Not a directory (os error 20)"
  | .isADirectory => "Is a directory (os error 21)"
  | .nameTooLong => "File name too long (os error 36)"
  | .notText => "stream did not contain valid UTF-8"
  | .other description => description

/-- Why rules cannot be loaded. -/
inductive RuleFileError where
  | unreadable (path : String) (failure : ReadFailure)
  | notWellFormed
  | wrongRoot (name : String)
  | lacksAttribute (element name : String)
  | lacksText (element : String)
  | noMatchMode (mode : String)
  | invalidPattern (source : String)
  | repeatedVerb (word : String)
  | repeatedVerbSet (id : String)
  deriving DecidableEq, Repr

/-- What the readers of markup and of patterns say about what they refuse:
about the document that is read, and about a pattern with a source.  They need
not say anything. -/
structure Complaints where
  document : Option String := none
  pattern : String → Option String := fun _ => none

/-- What is wrong, and what others say about it. -/
def withCause (summary : String) : Option String → String
  | none => summary
  | some cause => s!"{summary}: {cause}"

namespace RuleFileError

/-- What is wrong with a rule file, in the words of this library. -/
def summary : RuleFileError → String
  | .unreadable path _ => s!"could not read the rule file at {path}"
  | .notWellFormed => "the rule file is not well-formed XML"
  | .wrongRoot name =>
    s!"the root element of a rule file must be <verbs>, not <{name}>"
  | .lacksAttribute element name =>
    s!"<{element}> is missing its `{name}` attribute"
  | .lacksText element => s!"<{element}> must contain text"
  | .noMatchMode mode =>
    s!"`{mode}` is not a valid match mode for <mod> " ++
      "(expected `first` or `all`)"
  | .invalidPattern source => s!"could not compile the pattern `{source}`"
  | .repeatedVerb word => s!"the verb `{word}` is declared more than once"
  | .repeatedVerbSet id => s!"the verb-set `{id}` is declared more than once"

/-- What others say about the failure behind an error in a rule file. -/
def cause? (complaints : Complaints) : RuleFileError → Option String
  | .unreadable _ failure => some failure.message
  | .notWellFormed => complaints.document
  | .invalidPattern source => complaints.pattern source
  | _ => none

/-- The message of an error in a rule file: what is wrong, and what others say
about the failure behind it. -/
def message (error : RuleFileError) (complaints : Complaints := {}) : String :=
  withCause error.summary (error.cause? complaints)

end RuleFileError

/-- Why a filter is refused. -/
inductive FilterError where
  | undeclaredForm (form : String)
  | undeclaredParadigm (key : String)
  | notAParadigm (text : String)
  deriving DecidableEq, Repr

/-- The message of an error in a filter. -/
def FilterError.message : FilterError → String
  | .undeclaredForm form => s!"`{form}` is not a form declared by this language"
  | .undeclaredParadigm key =>
    s!"`{key}` is not a paradigm declared by this language"
  | .notAParadigm text =>
    s!"`{text}` is not a paradigm; " ++
      "expected a person followed by a quantity, like `1sg`"

/-- Why the rules for a verb are broken. -/
inductive BrokenRules where
  | undeclaredVerbSet (id : String)
  | circularInheritance (id : String)
  deriving DecidableEq, Repr

/-- The message of an error in the rules for a verb. -/
def BrokenRules.message : BrokenRules → String
  | .undeclaredVerbSet id =>
    s!"the verb-set `{id}` is referenced but never declared"
  | .circularInheritance id =>
    s!"the verb-set `{id}` inherits from itself through its ancestors"

/-- Why no inflector can be made: its rules or its filter. -/
inductive SetupError where
  | rules (error : RuleFileError)
  | filter (error : FilterError)
  deriving DecidableEq, Repr

namespace SetupError

/-- What is wrong with the rules or with the filter. -/
def summary : SetupError → String
  | .rules error => error.summary
  | .filter error => error.message

/-- What others say about the failure behind such an error. -/
def cause? (complaints : Complaints) : SetupError → Option String
  | .rules error => error.cause? complaints
  | .filter _ => none

/-- The message of an error in making an inflector. -/
def message (complaints : Complaints) (error : SetupError) : String :=
  withCause error.summary (error.cause? complaints)

end SetupError

end Inflection.Rules
