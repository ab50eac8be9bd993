import Inflection.Conjugation
import Inflection.Rules.Reader
import Inflection.Storage

/-!
# Inflectors

An inflector has the rules of one language and a filter.  What passes the filter
is found once, when it is set; a filter that is refused leaves the inflector as
it was.  Conjugating never changes it.
-/

namespace Inflection

open Inflection.Rules

/-- The rules of a language, with a filter and what passes it. -/
structure Inflector where
  language : String
  book : RuleBook
  filter : Filter
  selection : Selection
  resolved : filter.resolve book = .ok selection

namespace Inflector

/-- An inflector with a rule book. -/
def ofBook
    (language : String)
    (book : RuleBook)
    (filter : Filter) :
    Except FilterError Inflector :=
  match resolved : filter.resolve book with
  | .error error => .error error
  | .ok selection => .ok ⟨language, book, filter, selection, resolved⟩

/-- An inflector with the rules in a text. -/
def ofText
    (language text : String)
    (filter : Filter) :
    Except SetupError Inflector :=
  match RuleBook.ofText text with
  | .error error => .error (.rules error)
  | .ok book => (ofBook language book filter).mapError .filter

/-- An inflector with the rules in a file, given by its path and by what
reading it came to. -/
def ofFile
    (language path : String)
    (content : Except ReadFailure ByteArray)
    (filter : Filter) :
    Except SetupError Inflector :=
  match textOfBytes content with
  | .error failure => .error (.rules (.unreadable path failure))
  | .ok text => ofText language text filter

/-- An inflector with the rules for a language in a directory of a file tree. -/
def load
    (tree : FileTree)
    (directory language : String)
    (filter : Filter) :
    Except SetupError Inflector :=
  let path := ruleFilePath directory language
  ofFile language path (tree.read path) filter

/-- Replaces the filter. -/
def setFilter
    (inflector : Inflector)
    (filter : Filter) :
    Except FilterError Inflector :=
  match resolved : filter.resolve inflector.book with
  | .error error => .error error
  | .ok selection =>
    .ok { inflector with
      filter := filter, selection := selection, resolved := resolved }

/-- Conjugates a verb. -/
def conjugate (inflector : Inflector) (verb : String) :
    Except BrokenRules (Option Conjugation) :=
  inflector.book.conjugate inflector.selection verb

end Inflector

end Inflection
