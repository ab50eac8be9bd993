import Inflection.Rules.Book

/-!
# Filters

A filter restricts which forms and paradigms are produced.  A list of what is
wanted may be given, whose members must be declared; without one, everything is
wanted.  What is excepted is left out in any case, and excepting something that
is not declared changes nothing.
-/

namespace Inflection

open Inflection.Rules

/-- Which forms and paradigms are wanted. -/
structure Filter where
  forms : Option (List String) := none
  formsExcept : List String := []
  paradigms : Option (List Paradigm) := none
  paradigmsExcept : List Paradigm := []
  deriving DecidableEq, Repr

/-- The forms and paradigms to produce. -/
structure Selection where
  forms : List String
  paradigms : List Paradigm
  deriving DecidableEq, Repr

/-- What is wanted of a declared list, in declared order. -/
def select {Item : Type} [DecidableEq Item]
    (wanted : Option (List Item))
    (except : List Item)
    (declared : List Item) :
    List Item :=
  declared.filter fun item => wanted.all (item ∈ ·) && item ∉ except

/-- The first of the wanted items that is not declared. -/
def undeclared? {Item : Type} [DecidableEq Item]
    (wanted : Option (List Item))
    (declared : List Item) :
    Option Item :=
  (wanted.getD []).find? fun item => item ∉ declared

/-- The forms and paradigms of a book that pass the filter. -/
def Filter.resolve
    (filter : Filter)
    (book : RuleBook) :
    Except FilterError Selection :=
  match undeclared? filter.forms book.forms with
  | some form => .error (.undeclaredForm form)
  | none =>
    match undeclared? filter.paradigms book.paradigms with
    | some paradigm => .error (.undeclaredParadigm paradigm.key)
    | none =>
      .ok
        { forms := select filter.forms filter.formsExcept book.forms
          paradigms :=
            select filter.paradigms filter.paradigmsExcept book.paradigms }

end Inflection
