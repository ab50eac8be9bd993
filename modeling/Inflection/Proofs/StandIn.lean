import Inflection.Proofs.Agreement
import Inflection.Proofs.AncestorSearch
import Inflection.Proofs.DocumentOrder
import Inflection.Proofs.Prescription

/-!
# Fallbacks stand in for entries

A word that has no entry but is matched by a fallback is conjugated by a
verb-set.  It might as well have an entry of its own, one that has no
rules and inherits from that verb-set: the conjugations are the same, and
so are the errors.

The ways to them differ.  The fallback starts at the verb-set, which counts as
passed there; the entry starts at a verb, which does not count, and passes the
verb-set in its first step.  From then on both are on the same way and have
passed the same, whether it ends, breaks off or goes round in a circle.
-/

namespace Inflection

open Inflection.Rules

/-- An entry without rules that inherits from a verb-set. -/
def heir (word target : String) : Entry .verb :=
  ⟨word, some target, .empty⟩

/-- The ancestors on a way depend on the verb-sets of a book alone. -/
theorem ancestorsFrom_of_same_verbSets
    {book book' : RuleBook}
    (same : book'.verbSets = book.verbSets)
    (passed : List String)
    (next : Option String) :
    ancestorsFrom book' passed next = ancestorsFrom book passed next := by
  have sameSet : ∀ id, book'.verbSet? id = book.verbSet? id := by
    intro id
    rw [RuleBook.verbSet?, same]
    rfl
  fun_induction ancestorsFrom book passed next with
  | case1 passed => rw [ancestorsFrom]
  | case2 passed id absent =>
    exact ancestorsFrom_undeclared ((sameSet id).trans absent)
  | case3 passed id parent declared isNew error failed ih =>
    rw [ancestorsFrom_onward ((sameSet id).trans declared) isNew, ih, failed]
    rfl
  | case4 passed id parent declared isNew further rest ih =>
    rw [ancestorsFrom_onward ((sameSet id).trans declared) isNew, ih, rest]
    rfl
  | case5 passed id parent declared again =>
    exact ancestorsFrom_circular ((sameSet id).trans declared)
      (not_not.mp again)

/-- The ancestors of an heir are its verb-set and the ancestors of that. -/
theorem ancestors_heir (book : RuleBook) (word target : String) :
    ancestors book (heir word target) =
      book.verbSet target >>= fun set =>
        (ancestors book set).map (set :: ·) := by
  rw [ancestors, passedAt, heir, RuleBook.verbSet]
  cases declared : book.verbSet? target with
  | none => exact ancestorsFrom_undeclared declared
  | some set => exact ancestorsFrom_onward declared List.not_mem_nil

/-- Layers say the same with an empty one in front of them. -/
theorem sayAlike_empty_cons
    (layers : List Forms) :
    SayAlike (.empty :: layers) layers := by
  intro Said form says? wins
  rw [nearestSaid_cons, Keyed.find?_empty]
  rfl

section

variable
    {book extended : RuleBook}
    {word : String}
    {fallback : Fallback}

/-- A word is conjugated by an heir of the verb-set that its fallback picks as
by the fallback. -/
theorem conjugate_of_heir
    (without : HasNoEntry book word)
    (first : FirstMatching book word fallback)
    (added : book.addVerb (heir word fallback.target) = .ok extended)
    (selection : Selection) :
    extended.conjugate selection word = book.conjugate selection word := by
  rcases addEntry_eq_ok_iff.mp added with ⟨-, -, -, isVerbs, noFurtherSets⟩
  have sameSets := noFurtherSets.trans (List.append_nil _)
  have found : extended.verb? word = some (heir word fallback.target) := by
    refine verb?_of_mem ?_ rfl
    rw [isVerbs]
    exact List.mem_append_right _ (List.mem_singleton.mpr rfl)
  have inherited :
      ancestors extended (heir word fallback.target) =
        ancestors book (heir word fallback.target) :=
    ancestorsFrom_of_same_verbSets sameSets _ _
  rw [RuleBook.conjugate, ancestryOf, found, RuleBook.conjugate, ancestryOf,
    verb?_of_hasNoEntry without, fallbackSet_of_firstMatching first]
  simp only [Ancestry.ofEntry, inherited, ancestors_heir]
  cases book.verbSet fallback.target with
  | error broken => rfl
  | ok set =>
    simp only [ok_bind, map_ok]
    cases ancestors book set with
    | error broken => rfl
    | ok chain =>
      have alike :
          SayAlike
            (Ancestry.mk (heir word fallback.target) (set :: chain)).layers
            (Ancestry.mk set chain).layers :=
        sayAlike_empty_cons _
      simp only [map_ok, Option.map_some, Ancestry.conjugate_of_sayAlike alike]

/-- An entry can be added for a word that has none. -/
theorem exists_addVerb_of_hasNoEntry
    (without : HasNoEntry book word)
    {entry : Entry .verb}
    (named : entry.name = word) :
    ∃ extended, book.addVerb entry = .ok extended := by
  have new : entry.name ∉ book.verbs.map Entry.name := by
    intro member
    rcases List.mem_map.mp member with ⟨other, isVerb, same⟩
    exact without other isVerb (same.trans named)
  exact ⟨_, RuleBook.addEntry_of_new new⟩

/-- A book in which a word has an empty entry, inheriting from the verb-set that
its first matching fallback picks, gives the same for the word as the book in
which it has none, with every filter that is accepted. -/
theorem conjugate_fallback_as_entry
    (without : HasNoEntry book word)
    (first : FirstMatching book word fallback) :
    ∃ extended,
      book.addVerb (heir word fallback.target) = .ok extended ∧
      ∀ (language : String) (filter : Filter) (inflector : Inflector),
        Inflector.ofBook language book filter = .ok inflector →
          ∃ inflector',
            Inflector.ofBook language extended filter = .ok inflector' ∧
            inflector'.conjugate word = inflector.conjugate word := by
  have isNamed : (heir word fallback.target).name = word := rfl
  rcases exists_addVerb_of_hasNoEntry without isNamed with ⟨extended, added⟩
  refine ⟨extended, added, ?_⟩
  intro language filter inflector made
  rcases addEntry_eq_ok_iff.mp added with ⟨sameForms, sameParadigms, -⟩
  rcases Inflector.exists_ofBook_of_declares_same made sameForms
      sameParadigms with
    ⟨inflector', made', isBook', sameSelection⟩
  rcases Inflector.parts_of_ofBook made with ⟨-, isBook, -⟩
  refine ⟨inflector', made', ?_⟩
  rw [Inflector.conjugate, isBook', sameSelection,
    conjugate_of_heir without first added, Inflector.conjugate, isBook]

end

/-- The pattern for words with an `x`. -/
def patternX : Pattern where
  source := "x"
  program := ⟨#[.done, .char ⟨[⟨0x78, 0x78⟩]⟩ 0], 1⟩
  program_eq := by rfl

/-- The pattern for words that end in `ir`. -/
def patternIr : Pattern where
  source := "ir$"
  program :=
    ⟨#[.done, .check .textStop 0, .char ⟨[⟨0x72, 0x72⟩]⟩ 1,
        .char ⟨[⟨0x69, 0x69⟩]⟩ 2], 3⟩
  program_eq := by rfl

/-- A book with fallbacks, the second of which leads into a circle. -/
def bookWithFallbacks : RuleBook :=
  { bookWithCircle with fallbacks := [⟨patternX, "ir"⟩, ⟨patternIr, "tenir"⟩] }

/-- A word that only the second fallback matches gives the same by an entry,
here an error. -/
theorem conjugate_fallback_as_entry_sentir :
    HasNoEntry bookWithFallbacks "sentir" ∧
    FirstMatching bookWithFallbacks "sentir" ⟨patternIr, "tenir"⟩ ∧
    ∃ extended,
      bookWithFallbacks.addVerb (heir "sentir" "tenir") = .ok extended ∧
      ∀ (language : String) (filter : Filter) (inflector : Inflector),
        Inflector.ofBook language bookWithFallbacks filter = .ok inflector →
          ∃ inflector',
            Inflector.ofBook language extended filter = .ok inflector' ∧
            inflector'.conjugate "sentir" = inflector.conjugate "sentir" := by
  have without : HasNoEntry bookWithFallbacks "sentir" := by
    intro entry member
    cases List.mem_singleton.mp member
    decide
  have first :
      FirstMatching bookWithFallbacks "sentir" ⟨patternIr, "tenir"⟩ := by
    refine ⟨[⟨patternX, "ir"⟩], [], rfl, by rfl, ?_⟩
    intro other isEarlier
    cases List.mem_singleton.mp isEarlier
    rfl
  exact ⟨without, first, conjugate_fallback_as_entry without first⟩

end Inflection
