import Inflection.Inflector

/-!
# Reports

How conjugations are written for people to read.  The values of a verb are
indented beneath their form, behind the keys of their paradigms, and all values
of a verb start in the same column.
-/

namespace Inflection.Report

open Inflection.Rules

/-- A text as one line. -/
def line (text : String) : String :=
  text ++ "\n"

/-- The forms and paradigms that a book declares. -/
def declared (book : RuleBook) : String :=
  line ("forms: " ++ " ".intercalate book.forms) ++
    line ("paradigms: " ++ " ".intercalate (book.paradigms.map Paradigm.key))

/-- The number of characters of the longest key. -/
def keyWidth (conjugation : Conjugation) : Nat :=
  (conjugation.forms.flatMap fun conjugated =>
    conjugated.slots.map fun slot => slot.1.length).foldl max 0

/-- A text with spaces behind it up to a number of characters. -/
def pad (width : Nat) (text : String) : String :=
  text ++ String.ofList (List.replicate (width - text.length) ' ')

/-- A value behind its key. -/
def slotLine (width : Nat) (slot : String × String) : String :=
  line ("    " ++ pad width slot.1 ++ "  " ++ slot.2)

/-- The values of one form. -/
def formBlock (width : Nat) (conjugated : FormTable) : String :=
  line ("  " ++ conjugated.form) ++
    String.join (conjugated.slots.map (slotLine width))

/-- The values of a verb. -/
def table (verb : String) (conjugation : Conjugation) : String :=
  line verb ++
    String.join (conjugation.forms.map (formBlock (keyWidth conjugation)))

/-- The note that no rule matches a verb. -/
def noRule (verb : String) : String :=
  line (verb ++ ": no rule matches")

/-- The values of a verb, or the note that there are none. -/
def verbBlock (verb : String) : Option Conjugation → String
  | none => noRule verb
  | some found => table verb found

end Inflection.Report
