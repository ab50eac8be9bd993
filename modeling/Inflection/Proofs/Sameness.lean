import Inflection.Proofs.Agreement
import Inflection.Proofs.Names
import Inflection.Proofs.Selection
import Mathlib.Data.List.Forall2

/-!
# The same rules

Rules are kept under names, in the order in which the names first came.  The
order is never asked for. So two lists of rules count as the same here if under
each name both have rules that are the same, or both have none, and this goes on
into the levels beneath.

Rules that are the same stay so when more is put to both of them, and they
conjugate alike.
-/

namespace Inflection.Rules

/-! ## Partial answers -/

section

variable
    {Left Right Said : Type}
    {Rel : Left → Right → Prop}
    {left : Option Left}
    {right : Option Right}

/-- Related answers say the same if related values do. -/
theorem bind_eq_of_rel
    (related : Option.Rel Rel left right)
    {says? : Left → Option Said}
    {says'? : Right → Option Said}
    (each : ∀ value value', Rel value value' → says? value = says'? value') :
    left.bind says? = right.bind says'? := by
  cases related with
  | none => rfl
  | some values => exact each _ _ values

theorem exists_right_of_rel
    (related : Option.Rel Rel left right)
    {value : Left}
    (found : left = some value) :
    ∃ value', right = some value' ∧ Rel value value' := by
  subst found
  cases related with
  | some values => exact ⟨_, rfl, values⟩

theorem eq_none_of_rel
    (related : Option.Rel Rel left right)
    (absent : left = none) :
    right = none := by
  subst absent
  cases related with
  | none => rfl

end

/-- An answer is related to itself if every value is. -/
theorem rel_refl
    {Said : Type}
    {Rel : Said → Said → Prop}
    (each : ∀ value, Rel value value)
    (said : Option Said) :
    Option.Rel Rel said said := by
  cases said with
  | none => exact .none
  | some value => exact .some (each value)

theorem eq_of_rel_eq
    {Said : Type}
    {said said' : Option Said}
    (related : Option.Rel Eq said said') :
    said = said' := by
  cases related with
  | none => rfl
  | some same => exact congrArg some same

/-! ## Keyed lists -/

namespace Keyed

variable {Value : Type}

/-- Tells that two keyed lists have values under the same names, and related
ones under each. -/
def Matches (Rel : Value → Value → Prop) (left right : Keyed Value) : Prop :=
  ∀ name, Option.Rel Rel (left.find? name) (right.find? name)

/-- Tells that two named values have the same name and are related. -/
def EntriesMatch
    (Rel : Value → Value → Prop)
    (entry entry' : String × Value) :
    Prop :=
  entry.1 = entry'.1 ∧ Rel entry.2 entry'.2

section

variable
    {Rel : Value → Value → Prop}
    {combine : Value → Value → Value}

/-- Only values under a name matter for what is under the name in the end. -/
theorem find?_putAll_filter
    (combine : Value → Value → Value)
    (first : Keyed Value)
    (entries : List (String × Value))
    (name : String) :
    (first.putAll combine entries).find? name =
      (first.putAll combine (entries.filter fun entry => entry.1 = name)).find?
        name := by
  -- The two runs soon differ in what they have put, but never in what is
  -- under the name.
  suffices run :
      ∀ left right : Keyed Value, left.find? name = right.find? name →
      (left.putAll combine entries).find? name =
        (right.putAll combine (entries.filter fun entry =>
            entry.1 = name)).find? name from
    run first first rfl
  induction entries with
  | nil =>
    intro left right same
    exact same
  | cons entry rest ih =>
    intro left right same
    by_cases here : entry.1 = name
    · rw [List.filter_cons_of_pos (by simpa using here)]
      apply ih
      rw [find?_put, find?_put, here, same]
    · rw [List.filter_cons_of_neg (by simpa using here)]
      apply ih
      have other : ¬ name = entry.1 := fun equal => here equal.symm
      rw [find?_put, if_neg other, same]

/-- The values of a keyed list under a name are the one that is found there, if
there is one. -/
theorem filter_entries (keyed : Keyed Value) (name : String) :
    (keyed.entries.filter fun entry => entry.1 = name) =
      ((keyed.find? name).map fun value => (name, value)).toList := by
  rcases keyed with ⟨entries, distinct⟩
  show _ = ((valueIn name entries).map fun value => (name, value)).toList
  induction entries with
  | nil => rfl
  | cons entry rest ih =>
    rw [List.map_cons, List.nodup_cons] at distinct
    by_cases here : entry.1 = name
    · subst here
      have nowhereElse : (rest.filter fun other => other.1 = entry.1) = [] := by
        apply List.filter_eq_nil_iff.mpr
        intro other member same
        exact distinct.1 (of_decide_eq_true same ▸ List.mem_map_of_mem member)
      simp [valueIn, nowhereElse]
    · simp [valueIn, here, ih distinct.2]

section

variable
    {left right : Keyed Value}
    (combines :
      ∀ {earlier earlier' later later'}, Rel earlier earlier' →
      Rel later later' →
        Rel (combine earlier later) (combine earlier' later'))

include combines

/-- Keyed lists that match still match after related values were put
under one name. -/
theorem Matches.put
    (before : left.Matches Rel right)
    (name : String)
    {value value' : Value}
    (related : Rel value value') :
    (left.put combine name value).Matches Rel
      (right.put combine name value') := by
  intro wanted
  rw [find?_put, find?_put]
  split
  · have there := before name
    generalize left.find? name = earlier, right.find? name = earlier' at there ⊢
    cases there with
    | none => exact .some related
    | some values => exact .some (combines values related)
  · exact before wanted

theorem Matches.putAll
    (before : left.Matches Rel right)
    {entries entries' : List (String × Value)}
    (match' : List.Forall₂ (EntriesMatch Rel) entries entries') :
    (left.putAll combine entries).Matches Rel
      (right.putAll combine entries') := by
  induction match' generalizing left right with
  | nil => exact before
  | @cons entry entry' rest rest' first others ih =>
    rcases first with ⟨sameName, related⟩
    apply ih
    show (left.put combine entry.1 entry.2).Matches Rel
        (right.put combine entry'.1 entry'.2)
    rw [← sameName]
    exact before.put combines entry.1 related

/-- For this it is enough that under each name related values were put, in
the same order. -/
theorem Matches.putAll_of_filter
    (before : left.Matches Rel right)
    {entries entries' : List (String × Value)}
    (underEach : ∀ name,
      List.Forall₂ (EntriesMatch Rel)
        (entries.filter fun entry => entry.1 = name)
        (entries'.filter fun entry => entry.1 = name)) :
    (left.putAll combine entries).Matches Rel
      (right.putAll combine entries') := by
  intro name
  rw [find?_putAll_filter, find?_putAll_filter combine right]
  exact before.putAll combines (underEach name) name

/-- Keyed lists that match still match after such as match were
merged into them. -/
theorem Matches.merge
    (earlier : left.Matches Rel right)
    {left' right' : Keyed Value}
    (later : left'.Matches Rel right') :
    (left.merge combine left').Matches Rel (right.merge combine right') := by
  apply earlier.putAll_of_filter combines
  intro name
  rw [filter_entries, filter_entries]
  have there := later name
  generalize left'.find? name = found, right'.find? name = found' at there ⊢
  cases there with
  | none => exact .nil
  | some values => exact .cons ⟨rfl, values⟩ .nil

end

end

end Keyed

/-! ## Levels, entries and books -/

/-- Tells that two persons have the same rules. -/
structure PersonRules.Same (left right : PersonRules) : Prop where
  own : left.own = right.own
  quantities : left.quantities.Matches Eq right.quantities

/-- Tells that two forms have the same rules. -/
structure FormRules.Same (left right : FormRules) : Prop where
  modifiers : left.modifiers = right.modifiers
  persons : left.persons.Matches PersonRules.Same right.persons

/-- Tells that two entries of one kind are the same. -/
structure Entry.Same {kind : EntryKind} (left right : Entry kind) : Prop where
  name : left.name = right.name
  inherit : left.inherit = right.inherit
  forms : left.forms.Matches FormRules.Same right.forms

/-- Tells that two books are the same: they declare the same lists, and have the
same entries. -/
structure RuleBook.Same (left right : RuleBook) : Prop where
  forms : left.forms = right.forms
  paradigms : left.paradigms = right.paradigms
  fallbacks : left.fallbacks = right.fallbacks
  verbs (word : String) :
    Option.Rel Entry.Same (left.verb? word) (right.verb? word)
  verbSets (id : String) :
    Option.Rel Entry.Same (left.verbSet? id) (right.verbSet? id)

theorem PersonRules.Same.merge
    {left right left' right' : PersonRules}
    (earlier : left.Same right)
    (later : left'.Same right') :
    (left.merge left').Same (right.merge right') := by
  constructor
  · exact earlier.own
  · exact earlier.quantities.merge
      (fun sameFirst _ => sameFirst) later.quantities

theorem FormRules.Same.merge
    {left right left' right' : FormRules}
    (earlier : left.Same right)
    (later : left'.Same right') :
    (left.merge left').Same (right.merge right') := by
  constructor
  · exact earlier.modifiers
  · exact earlier.persons.merge PersonRules.Same.merge later.persons

theorem PersonRules.Same.refl (rules : PersonRules) : rules.Same rules where
  own := rfl
  quantities _ := rel_refl Eq.refl _

theorem FormRules.Same.refl (rules : FormRules) : rules.Same rules where
  modifiers := rfl
  persons _ := rel_refl PersonRules.Same.refl _

theorem Entry.Same.refl
    {kind : EntryKind}
    (entry : Entry kind) :
    entry.Same entry where
  name := rfl
  inherit := rfl
  forms _ := rel_refl FormRules.Same.refl _

/-! ## Lists of entries -/

/-- Lists of the same entries, in another order. -/
def SameEntries
    {kind : EntryKind}
    (entries entries' : List (Entry kind)) :
    Prop :=
  ∃ moved, moved.Perm entries ∧ List.Forall₂ Entry.Same moved entries'

section

variable
    {kind : EntryKind}
    {entries entries' : List (Entry kind)}

theorem names_eq_of_forall₂
    (areSame : List.Forall₂ Entry.Same entries entries') :
    entries.map Entry.name = entries'.map Entry.name := by
  induction areSame with
  | nil => rfl
  | cons here farther ih => rw [List.map_cons, List.map_cons, here.name, ih]

theorem rel_find?_of_forall₂
    (areSame : List.Forall₂ Entry.Same entries entries')
    (name : String) :
    Option.Rel Entry.Same (entries.find? fun entry => entry.name = name)
      (entries'.find? fun entry => entry.name = name) := by
  induction areSame with
  | nil => exact .none
  | cons here farther ih =>
    rw [List.find?_cons, List.find?_cons, here.name]
    split
    · exact .some here
    · exact ih

/-- Entries of distinct names are found in any order. -/
theorem find?_of_perm
    {moved : List (Entry kind)}
    (perm : moved.Perm entries)
    (distinct : (entries.map Entry.name).Nodup)
    (name : String) :
    (moved.find? fun entry => entry.name = name) = entries.find? fun entry =>
      entry.name = name := by
  cases found : entries.find? fun entry => entry.name = name with
  | none =>
    rw [List.find?_eq_none] at found ⊢
    intro entry member
    exact found entry (perm.mem_iff.mp member)
  | some entry =>
    have named := List.find?_some found
    simp only [decide_eq_true_eq] at named
    have member : entry ∈ moved :=
      perm.mem_iff.mpr (List.mem_of_find?_eq_some found)
    have distinctToo : (moved.map Entry.name).Nodup :=
      (perm.map Entry.name).nodup_iff.mpr distinct
    rw [← named]
    exact find?_name_of_mem distinctToo member

theorem SameEntries.nodup_iff (same : SameEntries entries entries') :
    (entries.map Entry.name).Nodup ↔ (entries'.map Entry.name).Nodup := by
  rcases same with ⟨moved, perm, areSame⟩
  rw [← names_eq_of_forall₂ areSame]
  exact (perm.map Entry.name).nodup_iff.symm

theorem SameEntries.rel_find?
    (same : SameEntries entries entries')
    (distinct : (entries.map Entry.name).Nodup)
    (name : String) :
    Option.Rel Entry.Same (entries.find? fun entry => entry.name = name)
      (entries'.find? fun entry => entry.name = name) := by
  rcases same with ⟨moved, perm, areSame⟩
  rw [← find?_of_perm perm distinct]
  exact rel_find?_of_forall₂ areSame name

end

end Inflection.Rules

namespace Inflection

open Inflection.Rules

/-! ## The same conjugations -/

/-- Layers that have the same rules, one by one. -/
abbrev SameLayers (layers layers' : List Forms) : Prop :=
  List.Forall₂ (Keyed.Matches FormRules.Same) layers layers'

/-- Layers that have the same rules say the same of a form, as far as it is the
same for forms that have the same rules. -/
theorem nearestSaid_of_sameLayers
    {Said : Type}
    {says? : FormRules → Option Said}
    (each :
      ∀ rules rules', FormRules.Same rules rules' →
      says? rules = says? rules')
    {layers layers' : List Forms}
    (same : SameLayers layers layers')
    (form : String) :
    nearestSaid layers form says? = nearestSaid layers' form says? := by
  induction same with
  | nil => rfl
  | cons here farther ih =>
    rw [nearestSaid_cons, nearestSaid_cons, ih, bind_eq_of_rel (here form) each]

theorem answerAlike_of_sameLayers
    {layers layers' : List Forms}
    (same : SameLayers layers layers') :
    AnswerAlike layers layers' := by
  constructor
  · intro form
    apply nearestSaid_of_sameLayers _ same
    intro rules rules' sameForm
    exact congrArg some sameForm.modifiers
  · intro form person
    apply nearestSaid_of_sameLayers _ same
    intro rules rules' sameForm
    apply bind_eq_of_rel (sameForm.persons person)
    intro found found' samePerson
    exact congrArg some samePerson.own
  · intro form person quantity
    apply nearestSaid_of_sameLayers _ same
    intro rules rules' sameForm
    apply bind_eq_of_rel (sameForm.persons person)
    intro found found' samePerson
    exact eq_of_rel_eq (samePerson.quantities quantity)

/-- Entries that are the same, with ancestors that are the same, are
conjugated alike. -/
theorem Ancestry.conjugate_of_same
    {kind : EntryKind}
    {root root' : Entry kind}
    {chain chain' : List (Entry .verbSet)}
    (sameRoot : root.Same root')
    (sameChain : List.Forall₂ Entry.Same chain chain')
    (verb : String)
    (selection : Selection) :
    (Ancestry.mk root chain).conjugate verb selection =
      (Ancestry.mk root' chain').conjugate verb selection := by
  have ancestorsSame :
      SameLayers (chain.map Entry.forms) (chain'.map Entry.forms) := by
    apply List.forall₂_map_left_iff.mpr
    apply List.forall₂_map_right_iff.mpr
    exact sameChain.imp fun _ _ same => same.forms
  have layers :
      SameLayers (Ancestry.mk root chain).layers
        (Ancestry.mk root' chain').layers :=
    .cons sameRoot.forms ancestorsSame
  exact conjugate_of_answerAlike
    (answerAlike_of_sameLayers layers) verb selection

end Inflection
