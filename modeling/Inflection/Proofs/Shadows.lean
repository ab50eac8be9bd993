import Inflection.Proofs.Agreement
import Inflection.Proofs.Sameness

/-!
# Shadowed declarations

A level of rules is shadowed where a nearer layer declares it too.  What it says
itself, its mark and its modifiers, is then never asked for.  But the levels
beneath it are not shadowed along with it: each of them is looked up anew, and
found there if no nearer layer declares it.

So the layer that supplies the rules of a form is no farther than the one that
supplies the rules of a person in it, and that is no farther than the one that
supplies the rules of a quantity.
-/

namespace Inflection

open Inflection.Rules

/-! ## Suppliers -/

section

variable
    {Said Said' : Type}
    {says? : Forms → Option Said}
    {layer : Forms}
    {layers : List Forms}

/-- The number of the nearest layer that says anything. -/
def supplier?
    (layers : List Forms)
    (says? : Forms → Option Said) :
    Option Nat :=
  layers.findIdx? fun layer => (says? layer).isSome

theorem supplier?_cons_of_some
    {said : Said}
    (here : says? layer = some said) :
    supplier? (layer :: layers) says? = some 0 := by
  simp [supplier?, List.findIdx?_cons, here]

theorem supplier?_cons_of_none
    (silent : says? layer = none) :
    supplier? (layer :: layers) says? =
      (supplier? layers says?).map (· + 1) := by
  simp [supplier?, List.findIdx?_cons, silent]

/-- What the nearest layer says is what the supplier says. -/
theorem findSome?_eq_supplier?
    (layers : List Forms)
    (says? : Forms → Option Said) :
    layers.findSome? says? =
      (supplier? layers says?).bind fun number =>
        layers[number]?.bind says? := by
  induction layers with
  | nil => rfl
  | cons layer layers ih =>
    cases said : says? layer with
    | some value =>
      rw [List.findSome?_cons_of_isSome (by simp [said]),
        supplier?_cons_of_some said]
      rfl
    | none =>
      rw [List.findSome?_cons_of_isNone (by simp [said]),
        supplier?_cons_of_none said, ih, Option.bind_map]
      rfl

/-- Layers nearer than the supplier say nothing. -/
theorem silent_of_supplier?
    {number : Nat}
    (supplies : supplier? layers says? = some number) :
    ∀ nearer ∈ layers.take number, says? nearer = none := by
  induction layers generalizing number with
  | nil => cases supplies
  | cons layer layers ih =>
    intro nearer isNearer
    cases said : says? layer with
    | some value =>
      rw [supplier?_cons_of_some said] at supplies
      cases supplies
      cases isNearer
    | none =>
      rw [supplier?_cons_of_none said] at supplies
      rcases Option.map_eq_some_iff.mp supplies with ⟨farther, isSupplier, rfl⟩
      rcases List.mem_cons.mp isNearer with rfl | later
      · exact said
      · exact ih isSupplier nearer later

/-- Where a layer that lacks an outer level lacks an inner one too, the outer
level has a supplier at least as near. -/
theorem exists_supplier?_le
    {outer? : Forms → Option Said}
    {inner? : Forms → Option Said'}
    (within : ∀ layer, outer? layer = none → inner? layer = none)
    {number : Nat}
    (supplies : supplier? layers inner? = some number) :
    ∃ nearer ≤ number, supplier? layers outer? = some nearer := by
  induction layers generalizing number with
  | nil => cases supplies
  | cons layer layers ih =>
    cases said : outer? layer with
    | some value => exact ⟨0, Nat.zero_le number, supplier?_cons_of_some said⟩
    | none =>
      rw [supplier?_cons_of_none (within layer said)] at supplies
      rcases Option.map_eq_some_iff.mp supplies with ⟨farther, isSupplier, rfl⟩
      rcases ih isSupplier with ⟨nearer, nearer_le, isNearer⟩
      refine ⟨nearer + 1, Nat.succ_le_succ nearer_le, ?_⟩
      rw [supplier?_cons_of_none said, isNearer]
      rfl

end

theorem Rules.Keyed.person?_of_no_form
    {layer : Forms}
    {form : String}
    (absent : layer.find? form = none)
    (person : String) :
    layer.person? form person = none := by
  rw [Keyed.person?, absent]
  rfl

theorem Rules.Keyed.quantity?_of_no_person
    {layer : Forms}
    {form person : String}
    (absent : layer.person? form person = none)
    (quantity : String) :
    layer.quantity? form person quantity = none := by
  rw [Keyed.quantity?, absent]
  rfl

/-! ## Changes behind nearer layers -/

/-- Tells that one of some layers has rules for a form. -/
def DeclareForm (layers : List Forms) (form : String) : Prop :=
  ∃ layer ∈ layers, layer.find? form ≠ none

/-- Tells that one of some layers has rules for a person. -/
def DeclarePerson (layers : List Forms) (form person : String) : Prop :=
  ∃ layer ∈ layers, layer.person? form person ≠ none

/-- Tells that one of some layers has rules for a quantity. -/
def DeclareQuantity
    (layers : List Forms)
    (form person quantity : String) :
    Prop :=
  ∃ layer ∈ layers, layer.quantity? form person quantity ≠ none

/-- Rules for a person that have changed behind some layers: in what they say
themselves, if a nearer layer has rules for the person, and in their quantities,
where a nearer layer has rules for those. -/
structure PersonChanged (nearer : List Forms) (form person : String)
    (old new : PersonRules) : Prop where
  own : old.own = new.own ∨ DeclarePerson nearer form person
  quantities (quantity : String) :
    Option.Rel (fun old new =>
      old = new ∨ DeclareQuantity nearer form person quantity)
      (old.quantities.find? quantity) (new.quantities.find? quantity)

/-- Rules for a form that have changed behind some layers: in their modifiers,
if a nearer layer has rules for the form, and in their persons. -/
structure FormChanged
    (nearer : List Forms)
    (form : String)
    (old new : FormRules) :
    Prop where
  modifiers : old.modifiers = new.modifiers ∨ DeclareForm nearer form
  persons (person : String) :
    Option.Rel (PersonChanged nearer form person)
      (old.persons.find? person) (new.persons.find? person)

/-- A layer that has changed behind nearer ones, in shadowed
declarations only. -/
def ShadowedChange (nearer : List Forms) (old new : Forms) : Prop :=
  ∀ form, Option.Rel (FormChanged nearer form) (old.find? form) (new.find? form)

section

variable
    {nearer farther : List Forms}
    {old new : Forms}

theorem nearestSaid_append
    {Said : Type}
    (nearer farther : List Forms)
    (form : String)
    (says? : FormRules → Option Said) :
    nearestSaid (nearer ++ farther) form says? =
      (nearestSaid nearer form says?).or (nearestSaid farther form says?) :=
  List.findSome?_append

/-- A change of one layer is not seen where the nearer layers have the say, or
where it says the same. -/
theorem nearestSaid_of_change
    {Said : Type}
    {form : String}
    {says? : FormRules → Option Said}
    (unseen :
      (∀ layer ∈ nearer, (layer.find? form).bind says? = none) →
        (old.find? form).bind says? = (new.find? form).bind says?) :
    nearestSaid (nearer ++ old :: farther) form says? =
      nearestSaid (nearer ++ new :: farther) form says? := by
  rw [nearestSaid_append, nearestSaid_append, nearestSaid_cons,
    nearestSaid_cons]
  cases said : nearestSaid nearer form says? with
  | some value => rfl
  | none => rw [unseen (List.findSome?_eq_none_iff.mp said)]

/-- Layers that give no modifiers of a form do not declare it. -/
theorem not_declareForm_of_silent
    {form : String}
    (silent :
      ∀ layer ∈ nearer,
        ((layer.find? form).bind fun rules => some rules.modifiers) = none) :
    ¬ DeclareForm nearer form := by
  rintro ⟨layer, isNearer, declares⟩
  exact declares (Option.map_eq_none_iff.mp
    (Option.map_eq_bind.trans (silent layer isNearer)))

theorem not_declarePerson_of_silent
    {form person : String}
    (silent :
      ∀ layer ∈ nearer,
        ((layer.find? form).bind fun rules =>
          (rules.persons.find? person).bind fun rules =>
            some rules.own) = none) :
    ¬ DeclarePerson nearer form person := by
  rintro ⟨layer, isNearer, declares⟩
  have said :
      (layer.person? form person).bind (fun rules => some rules.own) =
        none := by
    rw [Keyed.person?, Option.bind_assoc]
    exact silent layer isNearer
  exact declares (Option.map_eq_none_iff.mp (Option.map_eq_bind.trans said))

theorem not_declareQuantity_of_silent
    {form person quantity : String}
    (silent :
      ∀ layer ∈ nearer,
        ((layer.find? form).bind fun rules =>
          (rules.persons.find? person).bind fun rules =>
            rules.quantities.find? quantity) = none) :
    ¬ DeclareQuantity nearer form person quantity := by
  rintro ⟨layer, isNearer, declares⟩
  apply declares
  rw [Keyed.quantity?, Keyed.person?, Option.bind_assoc]
  exact silent layer isNearer

/-- Layers answer alike before and after a change of shadowed declarations. -/
theorem answerAlike_of_shadowedChange
    (change : ShadowedChange nearer old new) :
    AnswerAlike (nearer ++ old :: farther) (nearer ++ new :: farther) := by
  constructor
  · intro form
    apply nearestSaid_of_change
    intro silent
    apply bind_eq_of_rel (change form)
    intro rules rules' changed
    exact congrArg some
      (changed.modifiers.resolve_right (not_declareForm_of_silent silent))
  · intro form person
    apply nearestSaid_of_change
    intro silent
    apply bind_eq_of_rel (change form)
    intro rules rules' formChanged
    apply bind_eq_of_rel (formChanged.persons person)
    intro found found' changed
    exact congrArg some
      (changed.own.resolve_right (not_declarePerson_of_silent silent))
  · intro form person quantity
    apply nearestSaid_of_change
    intro silent
    apply bind_eq_of_rel (change form)
    intro rules rules' formChanged
    apply bind_eq_of_rel (formChanged.persons person)
    intro found found' personChanged
    have related := personChanged.quantities quantity
    generalize found.quantities.find? quantity = before at related ⊢
    generalize found'.quantities.find? quantity = after at related ⊢
    cases related with
    | none => rfl
    | some changed =>
      exact congrArg some
        (changed.resolve_right (not_declareQuantity_of_silent silent))

end

/-! ## What is inert and what is live -/

namespace Ancestry

/-- The same entry with other ancestors. -/
def withAncestors
    (ancestry : Ancestry)
    (ancestors : List (Entry .verbSet)) :
    Ancestry :=
  ⟨ancestry.root, ancestors⟩

theorem quantityOutcome_of_nearest
    {ancestry : Ancestry}
    {nearer farther : List Forms}
    {layer : Forms}
    {form person quantity : String}
    {rules : QuantityRules}
    (order : ancestry.layers = nearer ++ layer :: farther)
    (silent : ∀ other ∈ nearer, other.quantity? form person quantity = none)
    (here : layer.quantity? form person quantity = some rules)
    (enclosing : Modifiers) :
    ancestry.quantityOutcome form person quantity enclosing =
      if rules.ignored then .ignored
      else .modifiers (rules.modifiers.within enclosing) := by
  have found : ancestry.quantity? form person quantity = some rules :=
    List.findSome?_eq_some_iff.mpr ⟨nearer, layer, farther, order, here, silent⟩
  rw [quantityOutcome_eq_ofLevel, found]
  rfl

/-- The number of the layer that supplies the rules for a form. -/
def formSupplier? (ancestry : Ancestry) (form : String) : Option Nat :=
  supplier? ancestry.layers fun layer => layer.find? form

/-- The number of the layer that supplies the rules for a person. -/
def personSupplier? (ancestry : Ancestry) (form person : String) : Option Nat :=
  supplier? ancestry.layers fun layer => layer.person? form person

/-- The number of the layer that supplies the rules for a quantity. -/
def quantitySupplier?
    (ancestry : Ancestry)
    (form person quantity : String) :
    Option Nat :=
  supplier? ancestry.layers fun layer => layer.quantity? form person quantity

/-- An ancestor that changes in shadowed declarations only changes no
outcome. -/
theorem outcomes_of_shadowedChange
    {ancestry : Ancestry}
    {nearer farther : List (Entry .verbSet)}
    {old new : Entry .verbSet}
    (split : ancestry.ancestors = nearer ++ old :: farther)
    (change :
      ShadowedChange (ancestry.root.forms :: nearer.map Entry.forms) old.forms
        new.forms)
    (form person quantity : String)
    (enclosing : Modifiers) :
    let changed := ancestry.withAncestors (nearer ++ new :: farther)
    changed.formModifiers form = ancestry.formModifiers form ∧
    changed.personOutcome form person enclosing =
      ancestry.personOutcome form person enclosing ∧
    changed.quantityOutcome form person quantity enclosing =
      ancestry.quantityOutcome form person quantity enclosing := by
  intro changed
  have before : ancestry.layers =
      (ancestry.root.forms :: nearer.map Entry.forms) ++ old.forms ::
        farther.map Entry.forms := by
    simp [layers, split]
  have after : changed.layers =
      (ancestry.root.forms :: nearer.map Entry.forms) ++ new.forms ::
        farther.map Entry.forms := by
    simp [changed, layers, withAncestors]
  have alike : AnswerAlike ancestry.layers changed.layers := by
    rw [before, after]
    exact answerAlike_of_shadowedChange change
  refine ⟨?_, ?_, ?_⟩
  · exact (formModifiers_of_answerAlike alike form).symm
  · exact (personOutcome_of_answerAlike alike form person enclosing).symm
  · exact (quantityOutcome_of_answerAlike alike form person quantity
      enclosing).symm

/-- Shadowed declarations are inert, and what is beneath them is live.

Each level is supplied by one layer.  The supplier of a form is at least as near
as the supplier of a person in it, and that is at least as near as the supplier
of a quantity; so nothing nearer than a person has a quantity of it, which the
person could suppress.  An ancestor that changes in shadowed declarations only
changes no outcome.  And the nearest rules for a quantity decide its outcome,
whatever nearer layers have for the form and the person around it. -/
theorem shadowed_inert_beneath_live (ancestry : Ancestry) :
    (∀ form person quantity : String,
      (ancestry.form? form =
          (ancestry.formSupplier? form).bind fun number =>
            ancestry.layers[number]?.bind fun layer => layer.find? form) ∧
      (ancestry.person? form person =
          (ancestry.personSupplier? form person).bind fun number =>
            ancestry.layers[number]?.bind fun layer =>
              layer.person? form person) ∧
      (ancestry.quantity? form person quantity =
          (ancestry.quantitySupplier? form person quantity).bind fun number =>
            ancestry.layers[number]?.bind fun layer =>
              layer.quantity? form person quantity) ∧
      (∀ number, ancestry.personSupplier? form person = some number →
        (∃ nearer ≤ number, ancestry.formSupplier? form = some nearer) ∧
        ∀ layer ∈ ancestry.layers.take number,
          layer.quantity? form person quantity = none) ∧
      ∀ number, ancestry.quantitySupplier? form person quantity = some number →
        ∃ nearer ≤ number, ancestry.personSupplier? form person = some nearer) ∧
    (∀ (nearer farther : List (Entry .verbSet)) (old new : Entry .verbSet),
      ancestry.ancestors = nearer ++ old :: farther →
      ShadowedChange (ancestry.root.forms :: nearer.map Entry.forms) old.forms
        new.forms →
        let changed := ancestry.withAncestors (nearer ++ new :: farther)
        ∀ (form person quantity : String) (enclosing : Modifiers),
          changed.formModifiers form = ancestry.formModifiers form ∧
          changed.personOutcome form person enclosing =
            ancestry.personOutcome form person enclosing ∧
          changed.quantityOutcome form person quantity enclosing =
            ancestry.quantityOutcome form person quantity enclosing) ∧
    ∀ (nearer farther : List Forms) (layer : Forms)
      (form person quantity : String)
      (rules : QuantityRules),
      ancestry.layers = nearer ++ layer :: farther →
      (∀ other ∈ nearer, other.quantity? form person quantity = none) →
      layer.quantity? form person quantity = some rules →
        ∀ enclosing,
          ancestry.quantityOutcome form person quantity enclosing =
            if rules.ignored then .ignored
            else .modifiers (rules.modifiers.within enclosing) := by
  refine ⟨?_, ?_, ?_⟩
  · intro form person quantity
    refine ⟨findSome?_eq_supplier? _ _, findSome?_eq_supplier? _ _,
      findSome?_eq_supplier? _ _, ?_, ?_⟩
    · intro number supplies
      constructor
      · exact exists_supplier?_le
          (fun layer absent => layer.person?_of_no_form absent person) supplies
      · intro layer isNearer
        exact layer.quantity?_of_no_person
          (silent_of_supplier? supplies layer isNearer) quantity
    · intro number supplies
      exact exists_supplier?_le
        (fun layer absent =>
          layer.quantity?_of_no_person absent quantity) supplies
  · intro nearer farther old new split change
    exact outcomes_of_shadowedChange split change
  · intro nearer farther layer form person quantity rules order silent here
    exact quantityOutcome_of_nearest order silent here

end Ancestry

/-- A verb-set with the ending of a quantity, and with modifiers and a mark of
its own around it. -/
def setWithEnding (ofForm : Modifiers) (ignored : Bool) : Entry .verbSet where
  name := "er"
  inherit := none
  forms :=
    .put FormRules.merge .empty "prs"
      ⟨ofForm,
        .put PersonRules.merge .empty "1"
          ⟨ignored, .unset,
            .put QuantityRules.merge .empty "sg" ⟨false,
              { append := some "e" }⟩⟩⟩

/-- A verb that shadows the form and the person of this verb-set. -/
def shadowingVerb : Entry .verb where
  name := "manger"
  inherit := some "er"
  forms :=
    .put FormRules.merge .empty "prs"
      ⟨{ removed := some 2 },
        .put PersonRules.merge .empty "1" ⟨false, .unset, .empty⟩⟩

/-- What changes in the verb-set behind the verb is not seen, and the ending in
it is found. -/
theorem shadowed_inert_beneath_live_ending :
    ShadowedChange [shadowingVerb.forms]
      (setWithEnding .unset false).forms
        (setWithEnding { append := some "t" } true).forms ∧
    Ancestry.personOutcome ⟨shadowingVerb,
      [setWithEnding { append := some "t" } true]⟩
        "prs" "1" .unset =
      Ancestry.personOutcome ⟨shadowingVerb,
        [setWithEnding .unset false]⟩ "prs" "1" .unset ∧
    Ancestry.quantityOutcome ⟨shadowingVerb,
      [setWithEnding { append := some "t" } true]⟩
        "prs" "1" "sg" .unset =
      .modifiers { append := some "e" } := by
  have declaresForm : DeclareForm [shadowingVerb.forms] "prs" :=
    ⟨_, List.mem_cons_self, by simp [shadowingVerb, Keyed.find?_put]⟩
  have declaresPerson : DeclarePerson [shadowingVerb.forms] "prs" "1" :=
    ⟨_, List.mem_cons_self,
      by simp [shadowingVerb, Keyed.person?, Keyed.find?_put]⟩
  have change :
      ShadowedChange [shadowingVerb.forms]
        (setWithEnding .unset false).forms
          (setWithEnding { append := some "t" } true).forms := by
    intro form
    by_cases isForm : form = "prs"
    · subst isForm
      simp only [setWithEnding, Keyed.find?_put, if_true, Keyed.find?_empty,
        Option.map_none, Option.getD_none]
      refine .some ⟨.inr declaresForm, ?_⟩
      intro person
      by_cases isPerson : person = "1"
      · subst isPerson
        simp only [Keyed.find?_put, if_true, Keyed.find?_empty, Option.map_none,
          Option.getD_none]
        refine .some ⟨.inr declaresPerson, ?_⟩
        intro quantity
        generalize Keyed.find? _ quantity = found
        cases found with
        | none => exact .none
        | some rules => exact .some (.inl rfl)
      · simp only [Keyed.find?_put, if_neg isPerson, Keyed.find?_empty]
        exact .none
    · simp only [setWithEnding, Keyed.find?_put, if_neg isForm,
        Keyed.find?_empty]
      exact .none
  have shown :=
    Ancestry.shadowed_inert_beneath_live ⟨shadowingVerb,
      [setWithEnding .unset false]⟩
  have inert :=
    shown.2.1 [] [] _ (setWithEnding { append := some "t" } true) rfl change
    "prs" "1" "sg" .unset
  have silent :
      ∀ other ∈ [shadowingVerb.forms],
        other.quantity? "prs" "1" "sg" = none := by
    intro other isNearer
    rw [List.mem_singleton.mp isNearer]
    rfl
  have live := shown.2.2 [shadowingVerb.forms] [] _ "prs" "1" "sg"
    ⟨false, { append := some "e" }⟩ rfl silent (by rfl) .unset
  exact ⟨change, inert.2.1, inert.2.2.trans live⟩

end Inflection
