import Inflection.Inflector

/-!
# What a filter admits

A filter admits an item that is among the wanted ones, if any are given, and not
among the exceptions. A filter that is accepted selects what it admits of the
declared forms and paradigms.
-/

namespace Inflection

open Inflection.Rules

section

variable {Item : Type} [DecidableEq Item]

/-- Tells that an item is wanted and not excepted. -/
def Admits
    (wanted : Option (List Item))
    (except : List Item)
    (item : Item) :
    Prop :=
  (∀ items, wanted = some items → item ∈ items) ∧ item ∉ except

instance (wanted : Option (List Item)) (except : List Item) (item : Item) :
    Decidable (Admits wanted except item) :=
  match wanted with
  | none => decidable_of_iff (item ∉ except) (by simp [Admits])
  | some items =>
    decidable_of_iff (item ∈ items ∧ item ∉ except) (by simp [Admits])

theorem select_eq_filter_admits
    (wanted : Option (List Item))
    (except declared : List Item) :
    select wanted except declared =
      declared.filter fun item => Admits wanted except item := by
  unfold select
  apply List.filter_congr
  intro item _
  cases wanted with
  | none => simp [Admits]
  | some items => simp [Admits]

end

namespace Filter

/-- Tells that a filter admits a form. -/
def AdmitsForm (filter : Filter) (form : String) : Prop :=
  Admits filter.forms filter.formsExcept form

/-- Tells that a filter admits a paradigm, as a pair of person and quantity. -/
def AdmitsParadigm (filter : Filter) (paradigm : Paradigm) : Prop :=
  Admits filter.paradigms filter.paradigmsExcept paradigm

instance (filter : Filter) (form : String) :
    Decidable (filter.AdmitsForm form) :=
  inferInstanceAs (Decidable (Admits _ _ _))

instance (filter : Filter) (paradigm : Paradigm) :
    Decidable (filter.AdmitsParadigm paradigm) :=
  inferInstanceAs (Decidable (Admits _ _ _))

/-- What an accepted filter selects: all that it admits of what is declared, in
declared order. -/
def admitted (filter : Filter) (book : RuleBook) : Selection where
  forms := book.forms.filter fun form => filter.AdmitsForm form
  paradigms :=
    book.paradigms.filter fun paradigm => filter.AdmitsParadigm paradigm

theorem eq_admitted_of_resolve
    {filter : Filter}
    {book : RuleBook}
    {selection : Selection}
    (resolved : filter.resolve book = .ok selection) :
    selection = filter.admitted book := by
  unfold resolve at resolved
  split at resolved
  · cases resolved
  · split at resolved
    · cases resolved
    · cases resolved
      rw [select_eq_filter_admits, select_eq_filter_admits]
      rfl

/-- The filter that restricts nothing is always accepted. -/
theorem resolve_unrestricted (book : RuleBook) :
    ({} : Filter).resolve book = .ok (({} : Filter).admitted book) := by
  have accepted : ({} : Filter).resolve book =
      .ok ⟨select none [] book.forms, select none [] book.paradigms⟩ := rfl
  rw [accepted, select_eq_filter_admits, select_eq_filter_admits]
  rfl

@[simp]
theorem admitsForm_unrestricted
    (form : String) :
    ({} : Filter).AdmitsForm form := by
  simp [AdmitsForm, Admits]

@[simp]
theorem admitsParadigm_unrestricted (paradigm : Paradigm) :
    ({} : Filter).AdmitsParadigm paradigm := by
  simp [AdmitsParadigm, Admits]

end Filter

namespace Inflector

/-- An inflector selects what its filter admits. -/
theorem selection_eq_admitted (inflector : Inflector) :
    inflector.selection = inflector.filter.admitted inflector.book :=
  Filter.eq_admitted_of_resolve inflector.resolved

/-- An inflector with a book and a filter has this book and this filter. -/
theorem parts_of_ofBook
    {language : String}
    {book : RuleBook}
    {filter : Filter}
    {inflector : Inflector}
    (made : ofBook language book filter = .ok inflector) :
    inflector.language = language ∧ inflector.book = book ∧
      inflector.filter = filter := by
  unfold ofBook at made
  split at made
  · cases made
  · cases made
    exact ⟨rfl, rfl, rfl⟩

/-- A filter that is accepted gives an inflector. -/
theorem exists_ofBook
    (language : String)
    {book : RuleBook}
    {filter : Filter}
    {selection : Selection}
    (accepted : filter.resolve book = .ok selection) :
    ∃ inflector, ofBook language book filter = .ok inflector := by
  unfold ofBook
  split
  · rename_i error refused
    rw [accepted] at refused
    cases refused
  · exact ⟨_, rfl⟩

/-- A filter selects the same of books that declare the same. -/
theorem exists_ofBook_of_declares_same
    {language : String}
    {book : RuleBook}
    {filter : Filter}
    {inflector : Inflector}
    (made : ofBook language book filter = .ok inflector)
    {book' : RuleBook}
    (sameForms : book'.forms = book.forms)
    (sameParadigms : book'.paradigms = book.paradigms) :
    ∃ inflector',
      ofBook language book' filter = .ok inflector' ∧
      inflector'.book = book' ∧
      inflector'.selection = inflector.selection := by
  rcases parts_of_ofBook made with ⟨-, rfl, rfl⟩
  have accepted : inflector.filter.resolve book' = .ok inflector.selection := by
    rw [← inflector.resolved, Filter.resolve, sameForms, sameParadigms]
    rfl
  rcases exists_ofBook language accepted with ⟨inflector', made'⟩
  rcases parts_of_ofBook made' with ⟨-, isBook, isFilter⟩
  refine ⟨inflector', made', isBook, ?_⟩
  have again := inflector'.resolved
  rw [isBook, isFilter, accepted] at again
  exact (Except.ok.inj again).symm

end Inflector

end Inflection
