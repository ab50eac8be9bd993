import Inflection.Proofs.Levels
import Inflection.Proofs.Selection
import Inflection.Proofs.Ways
import Mathlib.Data.List.Forall2

/-!
# What the rules prescribe

What a book prescribes for a word is described here without any search.  The
word has a root: its own entry, or else the verb-set of the first fallback that
matches it.  The rules of the root and of its ancestors are layers, and in each
place the rules that apply are, level by level, those of the nearest layer that
has any.  A modifier is the one that the innermost level with rules sets, where
the levels are the quantity, the person and the form.

An inflector gives exactly what is prescribed, the errors included.
-/

namespace Inflection

open Inflection.Rules

/-! ## The nearest layer -/

/-- What the nearest layer says of those that say anything, if one does. -/
inductive Nearest
    {Said : Type}
    (layers : List Forms)
    (says? : Forms → Option Said) :
    Option Said → Prop where
  | none
      (silent : ∀ layer ∈ layers, says? layer = .none) :
      Nearest layers says? .none
  | some
      {nearer farther : List Forms}
      {layer : Forms}
      {said : Said}
      (order : layers = nearer ++ layer :: farther)
      (silent : ∀ other ∈ nearer, says? other = .none)
      (here : says? layer = .some said) :
      Nearest layers says? (.some said)

theorem nearest_iff
    {Said : Type}
    {layers : List Forms}
    {says? : Forms → Option Said}
    {said? : Option Said} :
    Nearest layers says? said? ↔ layers.findSome? says? = said? := by
  constructor
  · intro nearest
    cases nearest with
    | none silent => exact List.findSome?_eq_none_iff.mpr silent
    | some order silent here =>
      exact List.findSome?_eq_some_iff.mpr ⟨_, _, _, order, here, silent⟩
  · intro found
    cases said? with
    | none => exact .none (List.findSome?_eq_none_iff.mp found)
    | some said =>
      rcases List.findSome?_eq_some_iff.mp found with
        ⟨nearer, layer, farther, order, here, silent⟩
      exact .some order silent here

/-! ## One place -/

/-- The modifiers that some levels come to, the innermost given first: each is
the one that the first level sets of those that set it. -/
def Rules.Modifiers.innermost (levels : List Modifiers) : Modifiers where
  prepend := levels.findSome? Modifiers.prepend
  append := levels.findSome? Modifiers.append
  replacement := levels.findSome? Modifiers.replacement
  removed := levels.findSome? Modifiers.removed

@[simp]
theorem Rules.Modifiers.innermost_nil : Modifiers.innermost [] = .unset :=
  rfl

@[simp]
theorem Rules.Modifiers.innermost_cons
    (own : Modifiers)
    (levels : List Modifiers) :
    Modifiers.innermost (own :: levels) = own.within (.innermost levels) := by
  simp only [innermost, within, findSome?_cons_eq_or]

/-- The rules for one place: at each level those of the nearest layer
that has any. -/
structure RulesAt
    (layers : List Forms)
    (form : String)
    (paradigm : Paradigm) where
  ofForm : Option FormRules
  ofPerson : Option PersonRules
  ofQuantity : Option QuantityRules
  form_nearest :
    Nearest layers (fun layer => layer.find? form) ofForm
  person_nearest :
    Nearest layers (fun layer => layer.person? form paradigm.person) ofPerson
  quantity_nearest :
    Nearest layers (fun layer =>
      layer.quantity? form paradigm.person paradigm.quantity)
      ofQuantity

namespace RulesAt

variable {layers : List Forms} {form : String} {paradigm : Paradigm}

/-- Tells that nothing is produced in the place. -/
def Ignored (rules : RulesAt layers form paradigm) : Prop :=
  (∃ person, rules.ofPerson = some person ∧ person.ignored = true) ∨
    ∃ quantity, rules.ofQuantity = some quantity ∧ quantity.ignored = true

/-- The modifiers of the levels that have rules, the innermost first. -/
def levels (rules : RulesAt layers form paradigm) : List Modifiers :=
  (rules.ofQuantity.map QuantityRules.modifiers).toList ++
    (rules.ofPerson.map PersonRules.modifiers).toList ++
    (rules.ofForm.map FormRules.modifiers).toList

/-- The modifiers of the place: each is the one that the innermost level
sets. -/
def modifiers (rules : RulesAt layers form paradigm) : Modifiers :=
  .innermost rules.levels

end RulesAt

/-- The slots of a form under some paradigms: none where the place is ignored,
and elsewhere the value under the person followed by the quantity. -/
inductive SlotsPrescribed (layers : List Forms) (verb form : String) :
    List Paradigm → List (String × String) → Prop where
  | nil : SlotsPrescribed layers verb form [] []
  | ignored
      {paradigm : Paradigm}
      {paradigms : List Paradigm}
      {slots : List (String × String)}
      (rules : RulesAt layers form paradigm)
      (ignored : rules.Ignored)
      (rest : SlotsPrescribed layers verb form paradigms slots) :
      SlotsPrescribed layers verb form (paradigm :: paradigms) slots
  | value
      {paradigm : Paradigm}
      {paradigms : List Paradigm}
      {slots : List (String × String)}
      (rules : RulesAt layers form paradigm)
      (produced : ¬ rules.Ignored)
      (rest : SlotsPrescribed layers verb form paradigms slots) :
      SlotsPrescribed layers verb form (paradigm :: paradigms)
        ((paradigm.person ++ paradigm.quantity,
            rules.modifiers.apply verb) :: slots)

/-- The table of a form is under its name and has its slots. -/
def TablePrescribed
    (layers : List Forms)
    (verb : String)
    (paradigms : List Paradigm)
    (form : String)
    (table : FormTable) :
    Prop :=
  table.form = form ∧ SlotsPrescribed layers verb form paradigms table.slots

/-! ## One word -/

/-- Tells that a word has no entry of its own. -/
def HasNoEntry (book : RuleBook) (word : String) : Prop :=
  ∀ entry ∈ book.verbs, entry.name ≠ word

/-- Tells that a fallback is the first whose pattern matches a word. -/
def FirstMatching
    (book : RuleBook)
    (word : String)
    (fallback : Fallback) :
    Prop :=
  ∃ earlier later,
    book.fallbacks = earlier ++ fallback :: later ∧
    fallback.pattern.isMatch word.toList = true ∧
    ∀ other ∈ earlier, other.pattern.isMatch word.toList = false

/-- The entry that the rules for a word start from. -/
inductive RootOf (book : RuleBook) (word : String) :
    {kind : EntryKind} → Entry kind → Prop where
  | own
      {entry : Entry .verb}
      (member : entry ∈ book.verbs)
      (named : entry.name = word) :
      RootOf book word entry
  | fallback
      {fallback : Fallback}
      {entry : Entry .verbSet}
      (without : HasNoEntry book word)
      (first : FirstMatching book word fallback)
      (member : entry ∈ book.verbSets)
      (named : entry.name = fallback.target) :
      RootOf book word entry

/-- What an inflector is to give for a word. -/
inductive Prescribed (inflector : Inflector) (word : String) :
    Except BrokenRules (Option Conjugation) → Prop where
  /-- No rule is for the word. -/
  | noRule
      (without : HasNoEntry inflector.book word)
      (unmatched :
        ∀ fallback ∈ inflector.book.fallbacks,
          fallback.pattern.isMatch word.toList = false) :
      Prescribed inflector word (.ok none)
  /-- The fallback for the word is to a verb-set that is not declared. -/
  | undeclaredTarget
      {fallback : Fallback}
      (without : HasNoEntry inflector.book word)
      (first : FirstMatching inflector.book word fallback)
      (undeclared :
        ∀ entry ∈ inflector.book.verbSets, entry.name ≠ fallback.target) :
      Prescribed inflector word (.error (.undeclaredVerbSet fallback.target))
  /-- The root has no ancestors that could be found. -/
  | brokenAncestry
      {kind : EntryKind}
      {root : Entry kind}
      {broken : BrokenRules}
      (isRoot : RootOf inflector.book word root)
      (failed : ancestors inflector.book root = .error broken) :
      Prescribed inflector word (.error broken)
  /-- Each admitted form has its table, in declared order. -/
  | conjugated
      {kind : EntryKind}
      {root : Entry kind}
      {chain : List (Entry .verbSet)}
      {tables : List FormTable}
      (isRoot : RootOf inflector.book word root)
      (found : ancestors inflector.book root = .ok chain)
      (prescribed :
        List.Forall₂
          (TablePrescribed (root.forms :: chain.map Entry.forms) word
            (inflector.book.paradigms.filter fun paradigm =>
              inflector.filter.AdmitsParadigm paradigm))
          (inflector.book.forms.filter fun form =>
            inflector.filter.AdmitsForm form)
          tables) :
      Prescribed inflector word (.ok (some ⟨tables⟩))

/-! ## Places agree -/

/-- A level that is not ignored goes in front of the levels around it. -/
theorem Outcome.ofLevel_innermost
    {declared? : Option (Bool × Modifiers)}
    (unmarked : ∀ own, declared? = some own → own.1 = false)
    (levels : List Modifiers) :
    Outcome.ofLevel declared? (.innermost levels) =
      .modifiers (.innermost ((declared?.map Prod.snd).toList ++ levels)) := by
  cases declared? with
  | none => rfl
  | some own => simp [ofLevel, unmarked own rfl]

namespace Ancestry

variable
    (ancestry : Ancestry)
    {form : String}
    {paradigm : Paradigm}

/-- The rules that an ancestry looks up are those of the nearest layers. -/
def rulesAt (form : String) (paradigm : Paradigm) :
    RulesAt ancestry.layers form paradigm where
  ofForm := ancestry.form? form
  ofPerson := ancestry.person? form paradigm.person
  ofQuantity := ancestry.quantity? form paradigm.person paradigm.quantity
  form_nearest := nearest_iff.mpr rfl
  person_nearest := nearest_iff.mpr rfl
  quantity_nearest := nearest_iff.mpr rfl

theorem eq_rulesAt (rules : RulesAt ancestry.layers form paradigm) :
    rules = ancestry.rulesAt form paradigm := by
  rcases rules with
    ⟨ofForm, ofPerson, ofQuantity, form_nearest, person_nearest,
      quantity_nearest⟩
  have formFound := nearest_iff.mp form_nearest
  have personFound := nearest_iff.mp person_nearest
  have quantityFound := nearest_iff.mp quantity_nearest
  subst formFound personFound quantityFound
  rfl

/-- Nothing is produced in a place that is ignored. -/
theorem modifiersAt?_of_ignored
    (ignored : (ancestry.rulesAt form paradigm).Ignored) :
    ancestry.modifiersAt? form paradigm = none := by
  rw [modifiersAt?_eq_outcomeWithin, outcomeWithin, personOutcome_eq_ofLevel,
    quantityOutcome_eq_ofLevel]
  rcases ignored with
    ⟨person, isPerson, marked⟩ | ⟨quantity, isQuantity, marked⟩
  · have declared :
        (ancestry.person? form paradigm.person).map PersonRules.own =
          some person.own :=
      congrArg (Option.map PersonRules.own) isPerson
    rw [declared, Outcome.ofLevel_of_marked marked]
    rfl
  · have declared :
        (ancestry.quantity? form paradigm.person paradigm.quantity).map
          QuantityRules.own =
          some quantity.own :=
      congrArg (Option.map QuantityRules.own) isQuantity
    rw [declared, Outcome.andThen_of_ignored fun enclosing =>
      Outcome.ofLevel_of_marked marked]
    rfl

theorem formModifiers_eq_innermost (form : String) :
    ancestry.formModifiers form =
      .innermost ((ancestry.form? form).map FormRules.modifiers).toList := by
  unfold formModifiers
  cases ancestry.form? form with
  | none => rfl
  | some rules => simp

/-- Elsewhere the modifiers are taken from the innermost levels
that set them. -/
theorem modifiersAt?_of_not_ignored
    (produced : ¬ (ancestry.rulesAt form paradigm).Ignored) :
    ancestry.modifiersAt? form paradigm =
      some (ancestry.rulesAt form paradigm).modifiers := by
  have personUnmarked :
      ∀ own,
        (ancestry.person? form paradigm.person).map PersonRules.own =
          some own →
        own.1 = false := by
    intro own isOwn
    rcases Option.map_eq_some_iff.mp isOwn with ⟨rules, isPerson, rfl⟩
    exact Bool.eq_false_iff.mpr fun marked =>
      produced (.inl ⟨rules, isPerson, marked⟩)
  have quantityUnmarked :
      ∀ own,
        (ancestry.quantity? form paradigm.person paradigm.quantity).map
          QuantityRules.own =
          some own → own.1 = false := by
    intro own isOwn
    rcases Option.map_eq_some_iff.mp isOwn with ⟨rules, isQuantity, rfl⟩
    exact Bool.eq_false_iff.mpr fun marked =>
      produced (.inr ⟨rules, isQuantity, marked⟩)
  rw [modifiersAt?_eq_outcomeWithin, outcomeWithin, personOutcome_eq_ofLevel,
    quantityOutcome_eq_ofLevel, formModifiers_eq_innermost,
    Outcome.ofLevel_innermost personUnmarked, Outcome.modifiers_andThen,
    Outcome.ofLevel_innermost quantityUnmarked, Option.map_map, Option.map_map,
    RulesAt.modifiers, RulesAt.levels, List.append_assoc]
  rfl

theorem slot?_of_ignored
    (verb : String)
    {rules : RulesAt ancestry.layers form paradigm}
    (ignored : rules.Ignored) :
    ancestry.slot? verb form paradigm = none := by
  rw [ancestry.eq_rulesAt rules] at ignored
  rw [slot?, ancestry.modifiersAt?_of_ignored ignored]
  rfl

theorem slot?_of_not_ignored
    (verb : String)
    {rules : RulesAt ancestry.layers form paradigm}
    (produced : ¬ rules.Ignored) :
    ancestry.slot? verb form paradigm =
      some (paradigm.person ++ paradigm.quantity,
        rules.modifiers.apply verb) := by
  rw [ancestry.eq_rulesAt rules] at produced ⊢
  rw [slot?, ancestry.modifiersAt?_of_not_ignored produced]
  rfl

theorem slotsPrescribed_iff
    (verb form : String)
    (paradigms : List Paradigm)
    (slots : List (String × String)) :
    SlotsPrescribed ancestry.layers verb form paradigms slots ↔
      paradigms.filterMap (ancestry.slot? verb form) = slots := by
  constructor
  · intro prescribed
    induction prescribed with
    | nil => rfl
    | ignored rules ignored rest ih =>
      rw [List.filterMap_cons_none (ancestry.slot?_of_ignored verb ignored), ih]
    | value rules produced rest ih =>
      rw [List.filterMap_cons_some
        (ancestry.slot?_of_not_ignored verb produced), ih]
  · rintro rfl
    induction paradigms with
    | nil => exact .nil
    | cons paradigm paradigms ih =>
      by_cases ignored : (ancestry.rulesAt form paradigm).Ignored
      · rw [List.filterMap_cons_none (ancestry.slot?_of_ignored verb ignored)]
        exact .ignored _ ignored ih
      · rw [List.filterMap_cons_some
          (ancestry.slot?_of_not_ignored verb ignored)]
        exact .value _ ignored ih

/-- All tables are as prescribed if and only if they are those that an
ancestry gives. -/
theorem tablesPrescribed_iff
    (verb : String)
    (paradigms : List Paradigm)
    (forms : List String)
    (tables : List FormTable) :
    List.Forall₂ (TablePrescribed ancestry.layers verb paradigms) forms tables ↔
      forms.map (ancestry.conjugateForm verb paradigms) = tables := by
  have single :
      ∀ form table, TablePrescribed ancestry.layers verb paradigms form table ↔
        ancestry.conjugateForm verb paradigms form = table := by
    intro form table
    rcases table with ⟨name, slots⟩
    simp only [TablePrescribed, ancestry.slotsPrescribed_iff, conjugateForm,
      FormTable.mk.injEq, eq_comm (a := name)]
  rw [← List.forall₂_eq_eq_eq, List.forall₂_map_left_iff]
  exact ⟨.imp fun form table => (single form table).mp,
    .imp fun form table => (single form table).mpr⟩

end Ancestry

/-! ## Words agree -/

section

variable {book : RuleBook} {word : String}

theorem verb?_of_hasNoEntry
    (without : HasNoEntry book word) :
    book.verb? word = none := by
  refine List.find?_eq_none.mpr ?_
  intro entry member
  simpa using without entry member

theorem fallback?_of_firstMatching
    {fallback : Fallback}
    (first : FirstMatching book word fallback) :
    book.fallback? word = some fallback := by
  rcases first with ⟨earlier, later, order, isMatch, unmatched⟩
  refine List.find?_eq_some_iff_append.mpr ⟨isMatch, earlier, later, order, ?_⟩
  intro other isEarlier
  simp [unmatched other isEarlier]

theorem fallbackSet_of_firstMatching
    {fallback : Fallback}
    (first : FirstMatching book word fallback) :
    book.fallbackSet word = (book.verbSet fallback.target).map some := by
  unfold RuleBook.fallbackSet
  rw [fallback?_of_firstMatching first]

/-- A word with a root is conjugated by the ancestry of its root. -/
theorem ancestryOf_of_rootOf
    {kind : EntryKind}
    {root : Entry kind}
    (isRoot : RootOf book word root) :
    ancestryOf book word = (Ancestry.ofEntry book root).map some := by
  unfold ancestryOf
  cases isRoot with
  | own member named => rw [verb?_of_mem member named]
  | fallback without first member named =>
    have declared := verbSet_eq_ok_iff.mpr (verbSet?_name_of_mem member)
    rw [named] at declared
    rw [verb?_of_hasNoEntry without, fallbackSet_of_firstMatching first,
      declared]
    rfl

/-- A word has an entry, is matched by a first fallback, or is
without any rule. -/
theorem entry_or_fallback_or_neither (book : RuleBook) (word : String) :
    (∃ entry ∈ book.verbs, entry.name = word) ∨
      HasNoEntry book word ∧
        ((∃ fallback, FirstMatching book word fallback) ∨
          ∀ fallback ∈ book.fallbacks,
            fallback.pattern.isMatch word.toList = false) := by
  by_cases own : ∃ entry ∈ book.verbs, entry.name = word
  · exact .inl own
  · refine .inr ⟨fun entry member named => own ⟨entry, member, named⟩, ?_⟩
    cases found : book.fallback? word with
    | none =>
      refine .inr fun fallback member => ?_
      simpa using List.find?_eq_none.mp found fallback member
    | some fallback =>
      rcases List.find?_eq_some_iff_append.mp found with
        ⟨isMatch, earlier, later, order, unmatched⟩
      refine .inl ⟨fallback, earlier, later, order, isMatch, ?_⟩
      intro other isEarlier
      simpa using unmatched other isEarlier

end

/-- Where a root is, something is prescribed. -/
theorem exists_prescribed_of_rootOf
    {inflector : Inflector}
    {word : String}
    {kind : EntryKind}
    {root : Entry kind}
    (isRoot : RootOf inflector.book word root) :
    ∃ answer, Prescribed inflector word answer := by
  cases found : ancestors inflector.book root with
  | error broken => exact ⟨_, .brokenAncestry isRoot found⟩
  | ok chain =>
    exact ⟨_, .conjugated isRoot found
      ((Ancestry.tablesPrescribed_iff ⟨root, chain⟩ word _ _ _).mpr rfl)⟩

/-- Something is prescribed for every word. -/
theorem exists_prescribed (inflector : Inflector) (word : String) :
    ∃ answer, Prescribed inflector word answer := by
  rcases entry_or_fallback_or_neither inflector.book word with
    ⟨entry, member, named⟩ | ⟨without, ⟨fallback, first⟩ | unmatched⟩
  · exact exists_prescribed_of_rootOf (.own member named)
  · by_cases declared : ∃ entry ∈ inflector.book.verbSets, entry.name =
      fallback.target
    · rcases declared with ⟨entry, member, named⟩
      exact exists_prescribed_of_rootOf (.fallback without first member named)
    · exact ⟨_, .undeclaredTarget without first
        fun entry member named => declared ⟨entry, member, named⟩⟩
  · exact ⟨_, .noRule without unmatched⟩

/-- What is prescribed is what an inflector gives. -/
theorem Prescribed.conjugate_eq
    {inflector : Inflector}
    {word : String}
    {answer : Except BrokenRules (Option Conjugation)}
    (prescribed : Prescribed inflector word answer) :
    inflector.conjugate word = answer := by
  unfold Inflector.conjugate RuleBook.conjugate
  cases prescribed with
  | noRule without unmatched =>
    have unmatched? : inflector.book.fallback? word = none :=
      List.find?_eq_none.mpr fun fallback member => by
        simp [unmatched fallback member]
    rw [ancestryOf, verb?_of_hasNoEntry without, RuleBook.fallbackSet,
      unmatched?]
    rfl
  | @undeclaredTarget fallback without first undeclared =>
    have undeclared? : inflector.book.verbSet? fallback.target = none :=
      List.find?_eq_none.mpr fun entry member => by
        simpa using undeclared entry member
    rw [ancestryOf, verb?_of_hasNoEntry without,
      fallbackSet_of_firstMatching first,
      verbSet_eq_error_iff.mpr ⟨undeclared?, rfl⟩]
    rfl
  | brokenAncestry isRoot failed =>
    rw [ancestryOf_of_rootOf isRoot, Ancestry.ofEntry, failed]
    rfl
  | @conjugated kind root chain tables isRoot found tablesPrescribed =>
    have given :=
      (Ancestry.tablesPrescribed_iff ⟨root, chain⟩ word _ _ _).mp
        tablesPrescribed
    rw [ancestryOf_of_rootOf isRoot, Ancestry.ofEntry, found, ← given,
      inflector.selection_eq_admitted]
    rfl

/-- For every word, an inflector gives what its book prescribes under its
filter, and nothing else. -/
theorem conjugate_eq_iff_prescribed
    (inflector : Inflector)
    (word : String)
    (answer : Except BrokenRules (Option Conjugation)) :
    inflector.conjugate word = answer ↔ Prescribed inflector word answer := by
  constructor
  · rintro rfl
    rcases exists_prescribed inflector word with ⟨answer, prescribed⟩
    rw [prescribed.conjugate_eq]
    exact prescribed
  · exact Prescribed.conjugate_eq

end Inflection
