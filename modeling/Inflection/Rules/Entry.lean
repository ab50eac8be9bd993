import Inflection.Rules.Keyed
import Inflection.Rules.Modifiers

/-!
# Entries

An entry of a rule book is a verb or a verb-set.  It has rules for forms; within
a form for persons; within a person for quantities.  Each of these levels has
modifiers of its own.  The rules for a person or for a quantity may be marked as
ignored, which says that nothing is produced there.

A form or a person that is declared twice keeps the modifiers and the mark of
its first declaration, while the levels beneath all its declarations are joined.
-/

namespace Inflection.Rules

/-- The kinds of entries. -/
inductive EntryKind where
  /-- A word.  Nothing inherits from it. -/
  | verb
  /-- A bundle of rules to inherit from. -/
  | verbSet
  deriving DecidableEq, Repr

/-- The rules for one quantity of a person within a form. -/
structure QuantityRules where
  ignored : Bool
  modifiers : Modifiers

/-- The rules for one person within a form. -/
structure PersonRules where
  ignored : Bool
  modifiers : Modifiers
  quantities : Keyed QuantityRules

/-- The rules for one form. -/
structure FormRules where
  modifiers : Modifiers
  persons : Keyed PersonRules

/-- The rules for some forms. -/
abbrev Forms :=
  Keyed FormRules

/-- An entry: its name, the verb-set that it inherits from, and its rules. -/
structure Entry (kind : EntryKind) where
  name : String
  inherit : Option String
  forms : Forms

/-- A quantity that is declared again keeps its first declaration. -/
def QuantityRules.merge (first _later : QuantityRules) : QuantityRules :=
  first

/-- A person that is declared again. -/
def PersonRules.merge (first later : PersonRules) : PersonRules :=
  { first with
    quantities := first.quantities.merge QuantityRules.merge later.quantities }

/-- A form that is declared again. -/
def FormRules.merge (first later : FormRules) : FormRules :=
  { first with persons := first.persons.merge PersonRules.merge later.persons }

namespace Keyed

/-- The rules for a person within a form. -/
def person? (forms : Forms) (form person : String) : Option PersonRules :=
  (forms.find? form).bind fun rules => rules.persons.find? person

/-- The rules for a quantity of a person within a form. -/
def quantity?
    (forms : Forms)
    (form person quantity : String) :
    Option QuantityRules :=
  (person? forms form person).bind fun rules => rules.quantities.find? quantity

end Keyed

end Inflection.Rules
