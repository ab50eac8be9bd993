import Inflection.Conjugation
import Inflection.Proofs.Levels

/-!
# Layers that say alike

Resolving a place asks the layers for three things: the modifiers of the form,
what is declared of the person itself, and the rules of the quantity.  On each
of them the first declaration has the say, and the nearest layer before the
others.  So layers that say alike in all such things give the same conjugations,
however the declarations are distributed among them.
-/

namespace Inflection

open Inflection.Rules

/-- What the nearest of some layers says that says anything under a form. -/
def nearestSaid {Said : Type}
    (layers : List Forms)
    (form : String)
    (says? : FormRules → Option Said) :
    Option Said :=
  layers.findSome? fun layer => (layer.find? form).bind says?

theorem nearestSaid_cons
    {Said : Type}
    (layer : Forms)
    (further : List Forms)
    (form : String)
    (says? : FormRules → Option Said) :
    nearestSaid (layer :: further) form says? =
      ((layer.find? form).bind says?).or (nearestSaid further form says?) :=
  findSome?_cons_eq_or _ layer further

/-- Tells that the nearest of some layers say the same as the nearest of others,
in everything in which the first declaration has the say. -/
def SayAlike (layers layers' : List Forms) : Prop :=
  ∀ {Said : Type} (form : String) (says? : FormRules → Option Said),
    FirstWins FormRules.merge says? →
      nearestSaid layers form says? = nearestSaid layers' form says?

/-- Tells that the nearest of some layers say the same as the nearest of others,
in the three things that a place asks for. -/
structure AnswerAlike (layers layers' : List Forms) : Prop where
  form (form : String) :
    nearestSaid layers form (fun rules => some rules.modifiers) =
      nearestSaid layers' form fun rules => some rules.modifiers
  person (form person : String) :
    nearestSaid layers form
        (fun rules =>
          (rules.persons.find? person).bind fun rules => some rules.own) =
      nearestSaid layers' form
        fun rules =>
          (rules.persons.find? person).bind fun rules => some rules.own
  quantity (form person quantity : String) :
    nearestSaid layers form
        (fun rules =>
          (rules.persons.find? person).bind fun rules =>
            rules.quantities.find? quantity) =
      nearestSaid layers' form
        fun rules =>
          (rules.persons.find? person).bind fun rules =>
            rules.quantities.find? quantity

/-- In each of the three things the first declaration has the say. -/
theorem SayAlike.answerAlike
    {layers layers' : List Forms}
    (alike : SayAlike layers layers') :
    AnswerAlike layers layers' := by
  constructor
  · intro form
    exact alike form _ (firstWins_form firstAlwaysWins_formModifiers)
  · intro form person
    exact alike form _
      (firstWins_form
        (firstAlwaysWins_personOfForm firstAlwaysWins_personOwn person))
  · intro form person quantity
    exact alike form _
      (firstWins_form
        (firstAlwaysWins_personOfForm
          (firstAlwaysWins_quantityOfPerson quantity) person))

namespace Ancestry

theorem formModifiers_eq_nearestSaid (ancestry : Ancestry) (form : String) :
    ancestry.formModifiers form =
      (nearestSaid ancestry.layers form fun rules =>
        some rules.modifiers).getD .unset := by
  have formSaid : (ancestry.form? form).map FormRules.modifiers =
      nearestSaid ancestry.layers form fun rules => some rules.modifiers := by
    unfold form? nearestSaid
    rw [List.map_findSome?]
    congr 1
    funext layer
    exact Option.map_eq_bind
  rw [formModifiers, formSaid]

theorem personOwn_eq_nearestSaid (ancestry : Ancestry) (form person : String) :
    (ancestry.person? form person).map PersonRules.own =
      nearestSaid ancestry.layers form fun rules =>
        (rules.persons.find? person).bind fun rules => some rules.own := by
  unfold person? nearestSaid
  rw [List.map_findSome?]
  congr 1
  funext layer
  rw [Function.comp_apply, Keyed.person?]
  cases layer.find? form with
  | none => rfl
  | some rules => exact Option.map_eq_bind

theorem quantity?_eq_nearestSaid
    (ancestry : Ancestry)
    (form person quantity : String) :
    ancestry.quantity? form person quantity =
      nearestSaid ancestry.layers form fun rules =>
        (rules.persons.find? person).bind fun rules =>
          rules.quantities.find? quantity := by
  unfold quantity? nearestSaid
  congr 1
  funext layer
  simp [Keyed.quantity?, Keyed.person?, Option.bind_assoc]

section

variable
    {left right : Ancestry}
    (alike : AnswerAlike left.layers right.layers)

include alike

theorem formModifiers_of_answerAlike (form : String) :
    left.formModifiers form = right.formModifiers form := by
  rw [formModifiers_eq_nearestSaid, formModifiers_eq_nearestSaid, alike.form]

theorem personOutcome_of_answerAlike
    (form person : String)
    (enclosing : Modifiers) :
    left.personOutcome form person enclosing =
      right.personOutcome form person enclosing := by
  rw [personOutcome_eq_ofLevel, personOutcome_eq_ofLevel,
    personOwn_eq_nearestSaid, personOwn_eq_nearestSaid, alike.person]

theorem quantityOutcome_of_answerAlike
    (form person quantity : String)
    (enclosing : Modifiers) :
    left.quantityOutcome form person quantity enclosing =
      right.quantityOutcome form person quantity enclosing := by
  rw [quantityOutcome_eq_ofLevel, quantityOutcome_eq_ofLevel,
    quantity?_eq_nearestSaid, quantity?_eq_nearestSaid, alike.quantity]

theorem modifiersAt?_of_answerAlike (form : String) (paradigm : Paradigm) :
    left.modifiersAt? form paradigm = right.modifiersAt? form paradigm := by
  unfold modifiersAt?
  rw [formModifiers_of_answerAlike alike, personOutcome_of_answerAlike alike]
  simp only [quantityOutcome_of_answerAlike alike]

/-- Ancestries whose layers answer alike conjugate alike. -/
theorem conjugate_of_answerAlike (verb : String) (selection : Selection) :
    left.conjugate verb selection = right.conjugate verb selection := by
  have forms : ∀ form,
      left.conjugateForm verb selection.paradigms form =
        right.conjugateForm verb selection.paradigms form := by
    intro form
    have slots : left.slot? verb form = right.slot? verb form := by
      funext paradigm
      rw [slot?, slot?, modifiersAt?_of_answerAlike alike]
    rw [conjugateForm, conjugateForm, slots]
  rw [conjugate, conjugate, List.map_congr_left fun form _ => forms form]

end

/-- Ancestries whose layers say alike conjugate alike. -/
theorem conjugate_of_sayAlike
    {left right : Ancestry}
    (alike : SayAlike left.layers right.layers)
    (verb : String)
    (selection : Selection) :
    left.conjugate verb selection = right.conjugate verb selection :=
  conjugate_of_answerAlike alike.answerAlike verb selection

end Ancestry

end Inflection
