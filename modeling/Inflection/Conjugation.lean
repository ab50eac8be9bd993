import Inflection.Resolution
import Inflection.Filter

/-!
# Conjugations

The conjugation of a verb has an entry for each selected form, and within it a
value for each selected paradigm that is not ignored, under the key of the
paradigm.  Forms and paradigms stay in declared order, and a form is listed even
if all its paradigms are ignored.
-/

namespace Inflection

open Inflection.Rules

/-- The values of one form, each under the key of its paradigm. -/
structure FormTable where
  form : String
  slots : List (String × String)
  deriving DecidableEq, Repr

/-- The value under a key. -/
def FormTable.get? (conjugated : FormTable) (key : String) : Option String :=
  (conjugated.slots.find? fun slot => slot.1 = key).map Prod.snd

/-- All values of a verb, by form. -/
structure Conjugation where
  forms : List FormTable
  deriving DecidableEq, Repr

/-- The values of a form. -/
def Conjugation.get?
    (conjugation : Conjugation)
    (form : String) :
    Option FormTable :=
  conjugation.forms.find? fun conjugated => conjugated.form = form

namespace Ancestry

/-- The value of a verb in one place, with its key, unless the
place is ignored. -/
def slot? (ancestry : Ancestry) (verb form : String) (paradigm : Paradigm) :
    Option (String × String) :=
  (ancestry.modifiersAt? form paradigm).map fun modifiers =>
    (paradigm.key, modifiers.apply verb)

/-- The values of a verb in one form. -/
def conjugateForm
    (ancestry : Ancestry)
    (verb : String)
    (paradigms : List Paradigm)
    (form : String) :
    FormTable :=
  ⟨form, paradigms.filterMap (ancestry.slot? verb form)⟩

/-- The values of a verb in the selected places. -/
def conjugate
    (ancestry : Ancestry)
    (verb : String)
    (selection : Selection) :
    Conjugation :=
  ⟨selection.forms.map (ancestry.conjugateForm verb selection.paradigms)⟩

end Ancestry

/-- Conjugates a verb by a rule book.  There is no conjugation if no rule
matches the verb. -/
def Rules.RuleBook.conjugate
    (book : RuleBook)
    (selection : Selection)
    (verb : String) :
    Except BrokenRules (Option Conjugation) :=
  (ancestryOf book verb).map fun ancestry =>
    ancestry.map fun ancestry => ancestry.conjugate verb selection

end Inflection
