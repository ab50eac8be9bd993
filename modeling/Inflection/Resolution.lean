import Inflection.Ancestry

/-!
# The cascade of modifiers

What happens to a verb in one place is decided along two axes.  Which rules
apply is decided by nearness: those of the entry itself, or else of the nearest
ancestor that has any, and this anew for the form, for the person within the
form and for the quantity within the person.  Which value a modifier has is
decided by level: a modifier that the applying rules leave unset is taken from
the level around them, as decided there, and not from further ancestors.

So an entry may remove characters for a whole form, while the endings of its
persons come from rules of an ancestor.
-/

namespace Inflection

open Inflection.Rules

/-- What the rules of a level come to. -/
inductive Outcome where
  /-- Nothing is produced here. -/
  | ignored
  | modifiers (modifiers : Modifiers)

namespace Ancestry

/-- The nearest rules for a form. -/
def form? (ancestry : Ancestry) (form : String) : Option FormRules :=
  ancestry.layers.findSome? fun layer => layer.find? form

/-- The nearest rules for a person within a form. -/
def person? (ancestry : Ancestry) (form person : String) : Option PersonRules :=
  ancestry.layers.findSome? fun layer => layer.person? form person

/-- The nearest rules for a quantity of a person within a form. -/
def quantity?
    (ancestry : Ancestry)
    (form person quantity : String) :
    Option QuantityRules :=
  ancestry.layers.findSome? fun layer => layer.quantity? form person quantity

/-- The modifiers of a form. -/
def formModifiers (ancestry : Ancestry) (form : String) : Modifiers :=
  ((ancestry.form? form).map FormRules.modifiers).getD .unset

/-- What the rules for a person come to, within the modifiers of the form. -/
def personOutcome
    (ancestry : Ancestry)
    (form person : String)
    (enclosing : Modifiers) :
    Outcome :=
  match ancestry.person? form person with
  | none => .modifiers enclosing
  | some rules =>
    if rules.ignored then .ignored
    else .modifiers (rules.modifiers.within enclosing)

/-- What the rules for a quantity come to, within the modifiers of the
person. -/
def quantityOutcome
    (ancestry : Ancestry)
    (form person quantity : String)
    (enclosing : Modifiers) :
    Outcome :=
  match ancestry.quantity? form person quantity with
  | none => .modifiers enclosing
  | some rules =>
    if rules.ignored then .ignored
    else .modifiers (rules.modifiers.within enclosing)

/-- The modifiers of one place, through all levels, unless the person or the
quantity is ignored. -/
def modifiersAt?
    (ancestry : Ancestry)
    (form : String)
    (paradigm : Paradigm) :
    Option Modifiers :=
  match ancestry.personOutcome form paradigm.person
      (ancestry.formModifiers form) with
  | .ignored => none
  | .modifiers modifiers =>
    match ancestry.quantityOutcome form paradigm.person paradigm.quantity
        modifiers with
    | .ignored => none
    | .modifiers modifiers => some modifiers

end Ancestry

end Inflection
