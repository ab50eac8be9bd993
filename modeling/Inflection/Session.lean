import Inflection.Inflector

/-!
# Sessions

A session is a run of requests to one inflector.  Requests ask for the
language, for what is declared, for the filter or for a conjugation, or they
set another filter.  Only a filter that is accepted changes the inflector for
the requests that follow.
-/

namespace Inflection

open Inflection.Rules

/-- What is asked of an inflector. -/
inductive Request where
  | language
  | forms
  | paradigms
  | filter
  | book
  | conjugate (verb : String)
  | setFilter (filter : Filter)

/-- What an inflector answers to a request. -/
inductive Response where
  | language (language : String)
  | forms (forms : List String)
  | paradigms (paradigms : List Paradigm)
  | filter (filter : Filter)
  | book (book : RuleBook)
  | conjugated (result : Except BrokenRules (Option Conjugation))
  | filterSet (result : Except FilterError Unit)

namespace Inflector

/-- Answers a request, and gives the inflector for the next one. -/
def respond (inflector : Inflector) : Request → Response × Inflector
  | .language => (.language inflector.language, inflector)
  | .forms => (.forms inflector.book.forms, inflector)
  | .paradigms => (.paradigms inflector.book.paradigms, inflector)
  | .filter => (.filter inflector.filter, inflector)
  | .book => (.book inflector.book, inflector)
  | .conjugate verb => (.conjugated (inflector.conjugate verb), inflector)
  | .setFilter filter =>
    match inflector.setFilter filter with
    | .error error => (.filterSet (.error error), inflector)
    | .ok changed => (.filterSet (.ok ()), changed)

/-- A filter that is refused leaves the inflector as it is. -/
theorem respond_of_refused
    {inflector : Inflector}
    {filter : Filter}
    {error : FilterError}
    (refused : inflector.setFilter filter = .error error) :
    inflector.respond (.setFilter filter) =
      (.filterSet (.error error), inflector) := by
  simp only [respond, refused]

theorem respond_of_accepted
    {inflector changed : Inflector}
    {filter : Filter}
    (accepted : inflector.setFilter filter = .ok changed) :
    inflector.respond (.setFilter filter) = (.filterSet (.ok ()), changed) := by
  simp only [respond, accepted]

/-- The inflector after some requests. -/
def after (inflector : Inflector) (requests : List Request) : Inflector :=
  requests.foldl
    (fun inflector request => (inflector.respond request).2) inflector

/-- The answers to some requests, each given by the inflector after
those before it. -/
def responses (inflector : Inflector) : List Request → List Response
  | [] => []
  | request :: requests =>
    (inflector.respond request).1 ::
      (inflector.respond request).2.responses requests

end Inflector

end Inflection
