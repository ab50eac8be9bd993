import Inflection.Proofs.Levels

/-!
# Defaults

Modifiers may be filled in from defaults early, before the levels of a place are
gone through, or late, in what comes of them.  It makes no difference.  A level
either is ignored, whatever the modifiers around it are, or fills in from them
what it leaves unset; and filling in is associative.

So it is enough to know each level within the one around it.  No level has to be
looked up again when the modifiers around it become known.
-/

namespace Inflection

open Inflection.Rules

/-! ## Filling in -/

/-- Tells that a value is the own one if that is set, be it to an empty text or
to zero, and else the enclosing one, which may be unset too. -/
structure KeptOrTaken
    {Value : Type}
    (own enclosing filled : Option Value) :
    Prop where
  kept (value : Value) : own = some value → filled = some value
  taken : own = none → filled = enclosing

theorem keptOrTaken_iff
    {Value : Type}
    {own enclosing filled : Option Value} :
    KeptOrTaken own enclosing filled ↔ filled = own.or enclosing := by
  constructor
  · intro fills
    cases isOwn : own with
    | none => exact fills.taken isOwn
    | some value => exact fills.kept value isOwn
  · rintro rfl
    constructor
    · rintro value rfl
      rfl
    · rintro rfl
      exact Option.none_or

/-- Tells that each modifier is filled in on its own.  A replacement counts as
one: its mode, its pattern and its text come from the same level. -/
structure Rules.Modifiers.FilledFrom
    (own enclosing filled : Modifiers) :
    Prop where
  prepend : KeptOrTaken own.prepend enclosing.prepend filled.prepend
  append : KeptOrTaken own.append enclosing.append filled.append
  replacement :
    KeptOrTaken own.replacement enclosing.replacement filled.replacement
  removed : KeptOrTaken own.removed enclosing.removed filled.removed

/-- Modifiers within others are these modifiers filled in from the others, and
nothing else is. -/
theorem Rules.Modifiers.filledFrom_iff_eq_within
    {own enclosing filled : Modifiers} :
    own.FilledFrom enclosing filled ↔ filled = own.within enclosing := by
  constructor
  · rintro ⟨prepend, append, replacement, removed⟩
    rw [keptOrTaken_iff] at prepend append replacement removed
    show (⟨filled.prepend, filled.append, filled.replacement,
          filled.removed⟩ : Modifiers) = _
    rw [prepend, append, replacement, removed]
    rfl
  · rintro rfl
    exact ⟨keptOrTaken_iff.mpr rfl, keptOrTaken_iff.mpr rfl,
      keptOrTaken_iff.mpr rfl, keptOrTaken_iff.mpr rfl⟩

/-- An empty text is set, so it is kept. -/
example :
    ({ append := some "" } : Modifiers).within
        { append := some "e", removed := some 2 } =
      { append := some "", removed := some 2 } :=
  rfl

/-! ## Outcomes -/

namespace Outcome

/-- An outcome with the modifiers that it leaves unset taken from defaults. -/
def within : Outcome → Modifiers → Outcome
  | ignored, _ => ignored
  | modifiers own, defaults => modifiers (own.within defaults)

theorem within_eq_ignored_iff {outcome : Outcome} {defaults : Modifiers} :
    outcome.within defaults = .ignored ↔ outcome = .ignored := by
  cases outcome with
  | ignored => exact Iff.rfl
  | modifiers own => simp [within]

theorem modifiers?_within (outcome : Outcome) (defaults : Modifiers) :
    (outcome.within defaults).modifiers? =
      outcome.modifiers?.map fun decided => decided.within defaults := by
  cases outcome with
  | ignored => rfl
  | modifiers own => rfl

end Outcome

/-- Tells that a level makes the same of modifiers that were filled in from
defaults as it makes of the modifiers alone, filled in afterwards. -/
def CommutesWithDefaults (level : Modifiers → Outcome) : Prop :=
  ∀ enclosing defaults : Modifiers,
    level (enclosing.within defaults) = (level enclosing).within defaults

/-- Whatever is declared of a level, it commutes with defaults. -/
theorem commutesWithDefaults_ofLevel (declared? : Option (Bool × Modifiers)) :
    CommutesWithDefaults (Outcome.ofLevel declared?) := by
  intro enclosing defaults
  match declared? with
  | none => rfl
  | some (true, own) => rfl
  | some (false, own) =>
    show Outcome.modifiers (own.within (enclosing.within defaults)) =
      .modifiers ((own.within enclosing).within defaults)
    rw [Modifiers.within_assoc]

/-- Levels that commute with defaults do so one after the other. -/
theorem CommutesWithDefaults.andThen
    {outer inner : Modifiers → Outcome}
    (outerCommutes : CommutesWithDefaults outer)
    (innerCommutes : CommutesWithDefaults inner) :
    CommutesWithDefaults fun enclosing => (outer enclosing).andThen inner := by
  intro enclosing defaults
  show (outer (enclosing.within defaults)).andThen inner =
    ((outer enclosing).andThen inner).within defaults
  rw [outerCommutes]
  cases outer enclosing with
  | ignored => rfl
  | modifiers decided => exact innerCommutes decided defaults

/-! ## Places -/

namespace Ancestry

theorem commutesWithDefaults_personOutcome
    (ancestry : Ancestry)
    (form person : String) :
    CommutesWithDefaults (ancestry.personOutcome form person) := by
  rw [personOutcome_eq_ofLevel]
  exact commutesWithDefaults_ofLevel _

theorem commutesWithDefaults_quantityOutcome
    (ancestry : Ancestry)
    (form person quantity : String) :
    CommutesWithDefaults (ancestry.quantityOutcome form person quantity) := by
  rw [quantityOutcome_eq_ofLevel]
  exact commutesWithDefaults_ofLevel _

theorem commutesWithDefaults_outcomeWithin
    (ancestry : Ancestry)
    (form : String)
    (paradigm : Paradigm) :
    CommutesWithDefaults (ancestry.outcomeWithin form paradigm) :=
  (ancestry.commutesWithDefaults_personOutcome form paradigm.person).andThen
    (ancestry.commutesWithDefaults_quantityOutcome form paradigm.person
      paradigm.quantity)

end Ancestry

/-- Defaults commute with the cascade.

Filling in is associative and idempotent, with no modifiers as its identity on
either side.  Each modifier is kept if it is set at all and else taken from the
level around it, a replacement as a whole; and nothing is set in the end if and
only if nothing was set in either.

So for an ancestry of any length, a person and a quantity are ignored within
modifiers that were filled in from defaults if and only if they are ignored
within the modifiers alone, and else come to what they come to within these,
filled in from the defaults.  The same goes for both levels one after the other:
with the modifiers of the form filled in beforehand, a place has the modifiers
that it has anyway, filled in. -/
theorem defaults_commute_with_cascade :
    (∀ inner middle outer : Modifiers,
      (inner.within middle).within outer = inner.within (middle.within outer)) ∧
    (∀ modifiers : Modifiers,
      modifiers.within .unset = modifiers ∧
      Modifiers.unset.within modifiers = modifiers ∧
      modifiers.within modifiers = modifiers) ∧
    (∀ own enclosing filled : Modifiers,
      own.FilledFrom enclosing filled ↔ filled = own.within enclosing) ∧
    (∀ own enclosing : Modifiers,
      (own.within enclosing).isUnset = true ↔
        own.isUnset = true ∧ enclosing.isUnset = true) ∧
    ∀ (ancestry : Ancestry) (form person quantity : String)
      (enclosing defaults : Modifiers),
      (ancestry.personOutcome form person (enclosing.within defaults) =
          .ignored ↔
        ancestry.personOutcome form person enclosing = .ignored) ∧
      ancestry.personOutcome form person (enclosing.within defaults) =
        (ancestry.personOutcome form person enclosing).within defaults ∧
      (ancestry.quantityOutcome form person quantity
          (enclosing.within defaults) = .ignored ↔
        ancestry.quantityOutcome form person quantity enclosing = .ignored) ∧
      ancestry.quantityOutcome form person quantity
          (enclosing.within defaults) =
        (ancestry.quantityOutcome form person quantity enclosing).within
          defaults ∧
      ancestry.outcomeWithin form ⟨person, quantity⟩
          (enclosing.within defaults) =
        (ancestry.outcomeWithin form ⟨person, quantity⟩ enclosing).within
          defaults ∧
      (ancestry.outcomeWithin form ⟨person, quantity⟩
          ((ancestry.formModifiers form).within defaults)).modifiers? =
        (ancestry.modifiersAt? form ⟨person, quantity⟩).map
          fun modifiers => modifiers.within defaults := by
  refine ⟨Modifiers.within_assoc, ?_, ?_, ?_, ?_⟩
  · intro modifiers
    exact ⟨modifiers.within_unset, modifiers.unset_within,
      modifiers.within_self⟩
  · intro own enclosing filled
    exact Modifiers.filledFrom_iff_eq_within
  · intro own enclosing
    rw [Modifiers.isUnset_within, Bool.and_eq_true]
  · intro ancestry form person quantity enclosing defaults
    have ofPerson := ancestry.commutesWithDefaults_personOutcome form person
    have ofQuantity :=
      ancestry.commutesWithDefaults_quantityOutcome form person quantity
    have ofPlace :=
      ancestry.commutesWithDefaults_outcomeWithin form ⟨person, quantity⟩
    refine ⟨?_, ofPerson enclosing defaults, ?_, ofQuantity enclosing defaults,
      ofPlace enclosing defaults, ?_⟩
    · rw [ofPerson, Outcome.within_eq_ignored_iff]
    · rw [ofQuantity, Outcome.within_eq_ignored_iff]
    · rw [ofPlace, Outcome.modifiers?_within,
        Ancestry.modifiersAt?_eq_outcomeWithin]

end Inflection
