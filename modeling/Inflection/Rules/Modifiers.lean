import Inflection.Pattern.Basic
import Inflection.Rules.Count

/-!
# Modifiers

Modifiers turn a verb into one of its forms.  They remove characters from its
end, replace what a pattern matches, and put text in front and behind, always in
this order.  A modifier that is not set is different from one that is set to
nothing: it is taken from the level that encloses it.
-/

namespace Inflection.Rules

open Inflection.Text

/-- Which matches a replacement replaces. -/
inductive MatchMode where
  | first
  | all
  deriving DecidableEq, Repr

/-- The name of a match mode. -/
def MatchMode.name : MatchMode → String
  | .first => "first"
  | .all => "all"

/-- The match mode of this name. -/
def MatchMode.named? (name : String) : Option MatchMode :=
  if name = "first" then some .first
  else if name = "all" then some .all
  else none

/-- A text to put in the place of what a pattern matches.  The text is
literal. -/
structure Replacement where
  mode : MatchMode
  search : Pattern
  text : String

/-- Replaces the first match in a word, or every match. -/
def Replacement.apply
    (replacement : Replacement)
    (word : List Char) :
    List Char :=
  match replacement.mode with
  | .first => replacement.search.replaceFirst replacement.text.toList word
  | .all => replacement.search.replaceAll replacement.text.toList word

/-- A set of modifiers; any of them may be unset. -/
structure Modifiers where
  prepend : Option String := none
  append : Option String := none
  replacement : Option Replacement := none
  /-- How many characters to remove from the end. -/
  removed : Option Nat := none

namespace Modifiers

/-- No modifiers. -/
def unset : Modifiers :=
  {}

/-- The modifiers of one level, with those it leaves unset taken from an
enclosing level. -/
def within (own enclosing : Modifiers) : Modifiers where
  prepend := own.prepend.or enclosing.prepend
  append := own.append.or enclosing.append
  replacement := own.replacement.or enclosing.replacement
  removed := own.removed.or enclosing.removed

/-- Tells whether no modifier is set. -/
def isUnset (modifiers : Modifiers) : Bool :=
  modifiers.prepend.isNone && modifiers.append.isNone &&
    modifiers.replacement.isNone &&
    modifiers.removed.isNone

@[simp]
theorem within_unset (own : Modifiers) : own.within .unset = own := by
  simp [within, unset]

@[simp]
theorem unset_within
    (enclosing : Modifiers) :
    unset.within enclosing = enclosing := by
  simp [within, unset]

@[simp]
theorem within_self
    (modifiers : Modifiers) :
    modifiers.within modifiers = modifiers := by
  simp [within]

/-- Levels may be filled in from the outermost inward, or from the
innermost outward. -/
theorem within_assoc (inner middle outer : Modifiers) :
    (inner.within middle).within outer =
      inner.within (middle.within outer) := by
  simp only [within, Option.or_assoc]

@[simp]
theorem isUnset_within (own enclosing : Modifiers) :
    (own.within enclosing).isUnset = (own.isUnset && enclosing.isUnset) := by
  simp only [isUnset, within, Option.isNone_or]
  ac_rfl

/-- The verb after characters were removed and matches replaced. -/
def body (modifiers : Modifiers) (verb : List Char) : List Char :=
  let word := removeLast (modifiers.removed.getD 0) verb
  match modifiers.replacement with
  | none => word
  | some replacement => replacement.apply word

/-- Turns a verb into the form that the modifiers describe. -/
def apply (modifiers : Modifiers) (verb : String) : String :=
  modifiers.prepend.getD "" ++ String.ofList (modifiers.body verb.toList) ++
    modifiers.append.getD ""

end Modifiers

end Inflection.Rules
