import Inflection.Proofs.Declarations
import Inflection.Resolution

/-!
# The levels of a place

A place is resolved in two steps of one kind, first the level of the person and
then that of the quantity. What a level comes to depends on nothing but what is
declared of it and the modifiers around it.
-/

namespace Inflection

open Inflection.Rules

/-- What is declared of a quantity: its mark and its modifiers. -/
def Rules.QuantityRules.own (rules : QuantityRules) : Bool × Modifiers :=
  (rules.ignored, rules.modifiers)

namespace Outcome

/-- What a level comes to within the modifiers around it, with its mark and its
own modifiers given, if anything is declared of it. -/
def ofLevel
    (declared? : Option (Bool × Modifiers))
    (enclosing : Modifiers) :
    Outcome :=
  match declared? with
  | none => modifiers enclosing
  | some (isIgnored, own) =>
    if isIgnored then ignored else modifiers (own.within enclosing)

/-- What a further level makes of an outcome.  Nothing is made of it if
it is ignored. -/
def andThen : Outcome → (Modifiers → Outcome) → Outcome
  | ignored, _ => ignored
  | modifiers enclosing, level => level enclosing

/-- The modifiers of an outcome, unless it is ignored. -/
def modifiers? : Outcome → Option Modifiers
  | ignored => none
  | modifiers decided => some decided

@[simp]
theorem modifiers_andThen
    (enclosing : Modifiers)
    (level : Modifiers → Outcome) :
    (Outcome.modifiers enclosing).andThen level = level enclosing :=
  rfl

/-- Nothing is made of any outcome by a level that is ignored. -/
theorem andThen_of_ignored
    {outcome : Outcome}
    {level : Modifiers → Outcome}
    (isIgnored : ∀ enclosing, level enclosing = .ignored) :
    outcome.andThen level = .ignored := by
  cases outcome with
  | ignored => rfl
  | modifiers enclosing => exact isIgnored enclosing

theorem ofLevel_of_marked
    {own : Bool × Modifiers}
    (marked : own.1 = true)
    {enclosing : Modifiers} :
    ofLevel (some own) enclosing = .ignored :=
  if_pos marked

end Outcome

namespace Ancestry

variable (ancestry : Ancestry) (form : String)

theorem personOutcome_eq_ofLevel (person : String) :
    ancestry.personOutcome form person =
      Outcome.ofLevel ((ancestry.person? form person).map PersonRules.own) := by
  funext enclosing
  unfold personOutcome
  cases ancestry.person? form person with
  | none => rfl
  | some rules => rfl

theorem quantityOutcome_eq_ofLevel (person quantity : String) :
    ancestry.quantityOutcome form person quantity =
      Outcome.ofLevel
        ((ancestry.quantity? form person quantity).map QuantityRules.own) := by
  funext enclosing
  unfold quantityOutcome
  cases ancestry.quantity? form person quantity with
  | none => rfl
  | some rules => rfl

/-- What a place comes to within modifiers of its form: the person within the
form, and then the quantity within the person. -/
def outcomeWithin (paradigm : Paradigm) (ofForm : Modifiers) : Outcome :=
  (ancestry.personOutcome form paradigm.person ofForm).andThen
    (ancestry.quantityOutcome form paradigm.person paradigm.quantity)

/-- The modifiers of a place are what it comes to within those of the nearest
rules for its form. -/
theorem modifiersAt?_eq_outcomeWithin (paradigm : Paradigm) :
    ancestry.modifiersAt? form paradigm =
      (ancestry.outcomeWithin form paradigm
        (ancestry.formModifiers form)).modifiers? := by
  unfold modifiersAt? outcomeWithin
  cases ancestry.personOutcome form paradigm.person
      (ancestry.formModifiers form) with
  | ignored => rfl
  | modifiers ofPerson =>
    simp only [Outcome.modifiers_andThen]
    cases ancestry.quantityOutcome form paradigm.person paradigm.quantity
        ofPerson with
    | ignored => rfl
    | modifiers ofQuantity => rfl

end Ancestry

end Inflection
