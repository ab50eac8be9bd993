import Inflection.Proofs.Readings
import Inflection.Proofs.Selection

/-!
# Accepted filters

A filter is accepted exactly if all that it wants is declared; what it excepts
does not matter for that. Otherwise it is refused for the first form that is not
declared, in the order of the filter, or for the first such paradigm if the
forms are all declared.

What an accepted filter selects depends on its lists as sets only.  Two filters
that want and except the same, however often and in whatever order, are both
refused or select the same; and wanting some of what is declared is the same as
excepting the rest.
-/

namespace Inflection

open Inflection.Rules

section

variable {Item : Type}

/-- Tells that all wanted items are declared; this holds if
everything is wanted. -/
def AllDeclared (wanted : Option (List Item)) (declared : List Item) : Prop :=
  ∀ items, wanted = some items → ∀ item ∈ items, item ∈ declared

/-- Tells that an item is the first of the wanted ones that is not declared. -/
def FirstUndeclared
    (wanted : Option (List Item))
    (declared : List Item)
    (item : Item) :
    Prop :=
  ∃ before after,
    wanted = some (before ++ item :: after) ∧
    (∀ other ∈ before, other ∈ declared) ∧
    item ∉ declared

/-- Tells that two filters of one list want the same items, or everything, and
except the same declared items. -/
structure SameChoice
    (declared : List Item)
    (wanted wanted' : Option (List Item))
    (except except' : List Item) : Prop where
  wanted : Option.Rel (fun items items' => ∀ item,
    item ∈ items ↔ item ∈ items') wanted wanted'
  except : ∀ item ∈ declared, (item ∈ except ↔ item ∈ except')

variable
    {wanted wanted' : Option (List Item)}
    {except except' declared items : List Item}

/-- Whether all that is wanted is declared does not depend on order
and repetition. -/
theorem SameChoice.allDeclared_iff
    (same : SameChoice declared wanted wanted' except except') :
    AllDeclared wanted declared ↔ AllDeclared wanted' declared := by
  cases same.wanted with
  | none => simp [AllDeclared]
  | some alike => simp [AllDeclared, alike]

variable [DecidableEq Item]

/-- Tells that of a declared list the admitted items are selected: in declared
order, and as often as they are declared. -/
def Selects
    (wanted : Option (List Item))
    (except declared selected : List Item) : Prop :=
  selected.Sublist declared ∧
    ∀ item, selected.count item =
      if Admits wanted except item then declared.count item else 0

theorem undeclared?_eq_none_iff :
    undeclared? wanted declared = none ↔ AllDeclared wanted declared := by
  unfold undeclared? AllDeclared
  cases wanted with
  | none => simp
  | some items => simp

theorem undeclared?_eq_some_iff {item : Item} :
    undeclared? wanted declared = some item ↔
      FirstUndeclared wanted declared item := by
  unfold undeclared? FirstUndeclared
  cases wanted with
  | none => simp
  | some items =>
    rw [Option.getD_some, List.find?_eq_some_iff_append]
    constructor
    · rintro ⟨isNew, before, after, rfl, passed⟩
      exact ⟨before, after, rfl, by simpa using passed, by simpa using isNew⟩
    · rintro ⟨before, after, split, passed, isNew⟩
      exact ⟨by simpa using isNew, before, after, Option.some.inj split,
        by simpa using passed⟩

/-- Wanting only declared items lacks nothing, as does wanting everything. -/
theorem undeclared?_of_declared (known : ∀ item ∈ items, item ∈ declared) :
    undeclared? (some items) declared = undeclared? none declared := by
  have nothing : undeclared? (none : Option (List Item)) declared = none := rfl
  rw [nothing, undeclared?_eq_none_iff]
  rintro _ ⟨⟩
  exact known

/-- There is one list that is selected. -/
theorem selects_iff {selected : List Item} :
    Selects wanted except declared selected ↔
      selected = select wanted except declared := by
  rw [select_eq_filter_admits]
  constructor
  · rintro ⟨sublist, counts⟩
    have admitted :
        ∀ item ∈ selected, decide (Admits wanted except item) = true := by
      intro item isSelected
      have some := List.count_pos_iff.mpr isSelected
      by_contra notAdmitted
      rw [counts, if_neg (by simpa using notAdmitted)] at some
      exact Nat.lt_irrefl 0 some
    have within := sublist.filter fun item => decide (Admits wanted except item)
    rw [List.filter_eq_self.mpr admitted] at within
    have perm :
        selected.Perm (declared.filter fun item =>
          decide (Admits wanted except item)) := by
      rw [List.perm_iff_count]
      intro item
      rw [counts]
      by_cases isAdmitted : Admits wanted except item
      · rw [if_pos isAdmitted, List.count_filter (by simpa using isAdmitted)]
      · rw [if_neg isAdmitted, eq_comm, List.count_eq_zero]
        simp [isAdmitted]
    exact within.eq_of_length perm.length_eq
  · rintro rfl
    refine ⟨List.filter_sublist, ?_⟩
    intro item
    by_cases isAdmitted : Admits wanted except item
    · rw [if_pos isAdmitted, List.count_filter (by simpa using isAdmitted)]
    · rw [if_neg isAdmitted, List.count_eq_zero]
      simp [isAdmitted]

theorem SameChoice.select_eq
    (same : SameChoice declared wanted wanted' except except') :
    select wanted except declared = select wanted' except' declared := by
  apply List.filter_congr
  intro item isDeclared
  cases same.wanted with
  | none => simp [same.except item isDeclared]
  | some alike => simp [same.except item isDeclared, alike item]

/-- Wanting some items is excepting all others that are declared. -/
theorem select_outside
    (outside : ∀ item ∈ declared, (item ∈ except ↔ item ∉ items)) :
    select (some items) [] declared = select none except declared := by
  apply List.filter_congr
  intro item isDeclared
  simp [outside item isDeclared]

end

namespace Filter

/-- Tells that two filters say the same about what a book declares. -/
structure SaysSame (book : RuleBook) (filter filter' : Filter) : Prop where
  forms :
    SameChoice book.forms filter.forms filter'.forms filter.formsExcept
      filter'.formsExcept
  paradigms :
    SameChoice book.paradigms filter.paradigms filter'.paradigms
      filter.paradigmsExcept filter'.paradigmsExcept

variable {filter filter' : Filter} {book : RuleBook}

theorem resolve_eq_ok_iff {selection : Selection} :
    filter.resolve book = .ok selection ↔
      AllDeclared filter.forms book.forms ∧
      AllDeclared filter.paradigms book.paradigms ∧
      selection.forms = select filter.forms filter.formsExcept book.forms ∧
      selection.paradigms =
        select filter.paradigms filter.paradigmsExcept book.paradigms := by
  rw [← undeclared?_eq_none_iff, ← undeclared?_eq_none_iff]
  rcases selection with ⟨forms, paradigms⟩
  unfold resolve
  cases undeclared? filter.forms book.forms with
  | some form => simp
  | none =>
    cases undeclared? filter.paradigms book.paradigms with
    | some paradigm => simp
    | none => simp [eq_comm]

theorem resolve_eq_error_iff {error : FilterError} :
    filter.resolve book = .error error ↔
      (∃ form, FirstUndeclared filter.forms book.forms form ∧
        error = .undeclaredForm form) ∨
      AllDeclared filter.forms book.forms ∧
        ∃ paradigm,
          FirstUndeclared filter.paradigms book.paradigms paradigm ∧
          error = .undeclaredParadigm paradigm.key := by
  simp only [← undeclared?_eq_none_iff, ← undeclared?_eq_some_iff]
  unfold resolve
  cases undeclared? filter.forms book.forms with
  | some form => simp [eq_comm]
  | none =>
    cases undeclared? filter.paradigms book.paradigms with
    | some paradigm => simp [eq_comm]
    | none => simp

theorem exists_resolve_iff :
    (∃ selection, filter.resolve book = .ok selection) ↔
      AllDeclared filter.forms book.forms ∧
        AllDeclared filter.paradigms book.paradigms := by
  constructor
  · rintro ⟨selection, accepted⟩
    rcases resolve_eq_ok_iff.mp accepted with ⟨forms, paradigms, -⟩
    exact ⟨forms, paradigms⟩
  · rintro ⟨forms, paradigms⟩
    exact ⟨⟨_, _⟩, resolve_eq_ok_iff.mpr ⟨forms, paradigms, rfl, rfl⟩⟩

/-- Filters that say the same are both refused, or select the same. -/
theorem SaysSame.resolve (same : SaysSame book filter filter') :
    SucceedAlike Eq (filter.resolve book) (filter'.resolve book) := by
  rw [succeedAlike_iff, exists_resolve_iff, exists_resolve_iff]
  constructor
  · rw [same.forms.allDeclared_iff, same.paradigms.allDeclared_iff]
  · intro selection selection' accepted accepted'
    rcases resolve_eq_ok_iff.mp accepted with ⟨-, -, forms, paradigms⟩
    rcases resolve_eq_ok_iff.mp accepted' with ⟨-, -, forms', paradigms'⟩
    rcases selection with ⟨_, _⟩
    rcases selection' with ⟨_, _⟩
    rw [Selection.mk.injEq]
    exact ⟨forms.trans (same.forms.select_eq.trans forms'.symm),
      paradigms.trans (same.paradigms.select_eq.trans paradigms'.symm)⟩

/-- A filter is resolved by what it lacks in each of its lists, and by what it
selects there. -/
theorem resolve_congr
    (lacksForm :
      undeclared? filter.forms book.forms =
        undeclared? filter'.forms book.forms)
    (lacksParadigm :
      undeclared? filter.paradigms book.paradigms =
        undeclared? filter'.paradigms book.paradigms)
    (forms :
      select filter.forms filter.formsExcept book.forms =
        select filter'.forms filter'.formsExcept book.forms)
    (paradigms :
      select filter.paradigms filter.paradigmsExcept book.paradigms =
        select filter'.paradigms filter'.paradigmsExcept book.paradigms) :
    filter.resolve book = filter'.resolve book := by
  simp only [Filter.resolve, lacksForm, lacksParadigm, forms, paradigms]

theorem resolve_forms_outside
    {wanted except : List String}
    (declared : ∀ form ∈ wanted, form ∈ book.forms)
    (outside : ∀ form ∈ book.forms, (form ∈ except ↔ form ∉ wanted)) :
    ({ filter with
        forms := some wanted
        formsExcept := [] } : Filter).resolve book =
      ({ filter with
          forms := none
          formsExcept := except } : Filter).resolve book :=
  resolve_congr (undeclared?_of_declared declared) rfl
    (select_outside outside) rfl

theorem resolve_paradigms_outside
    {wanted except : List Paradigm}
    (declared : ∀ paradigm ∈ wanted, paradigm ∈ book.paradigms)
    (outside :
      ∀ paradigm ∈ book.paradigms, (paradigm ∈ except ↔ paradigm ∉ wanted)) :
    ({ filter with
        paradigms := some wanted
        paradigmsExcept := [] } : Filter).resolve book =
      ({ filter with
          paradigms := none
          paradigmsExcept := except } : Filter).resolve book :=
  resolve_congr rfl (undeclared?_of_declared declared) rfl
    (select_outside outside)

end Filter

/-- A filter is accepted if all that it wants is declared, and refused for the
first thing that is not, forms before paradigms.  It selects the admitted part
of each declared list.  Only the members of its lists matter, and wanting
declared items is the same as excepting all others. -/
theorem resolve_decided_by_members (filter : Filter) (book : RuleBook) :
    ((∃ selection, filter.resolve book = .ok selection) ↔
      AllDeclared filter.forms book.forms ∧
        AllDeclared filter.paradigms book.paradigms) ∧
    (∀ error, filter.resolve book = .error error ↔
      (∃ form, FirstUndeclared filter.forms book.forms form ∧
        error = .undeclaredForm form) ∨
      AllDeclared filter.forms book.forms ∧
        ∃ paradigm,
          FirstUndeclared filter.paradigms book.paradigms paradigm ∧
          error = .undeclaredParadigm paradigm.key) ∧
    (∀ selection, filter.resolve book = .ok selection →
      (∀ forms, Selects filter.forms filter.formsExcept book.forms forms ↔
        forms = selection.forms) ∧
      ∀ paradigms,
        Selects filter.paradigms filter.paradigmsExcept book.paradigms
          paradigms ↔
        paradigms = selection.paradigms) ∧
    (∀ filter', filter.SaysSame book filter' →
      SucceedAlike Eq (filter.resolve book) (filter'.resolve book)) ∧
    (∀ wanted except,
      (∀ form ∈ wanted, form ∈ book.forms) →
      (∀ form ∈ book.forms, (form ∈ except ↔ form ∉ wanted)) →
      ({ filter with
          forms := some wanted
          formsExcept := [] } : Filter).resolve book =
        ({ filter with
            forms := none
            formsExcept := except } : Filter).resolve book) ∧
    ∀ wanted except,
      (∀ paradigm ∈ wanted, paradigm ∈ book.paradigms) →
      (∀ paradigm ∈ book.paradigms, (paradigm ∈ except ↔ paradigm ∉ wanted)) →
      ({ filter with
          paradigms := some wanted
          paradigmsExcept := [] } : Filter).resolve book =
        ({ filter with
            paradigms := none
            paradigmsExcept := except } : Filter).resolve book := by
  refine ⟨Filter.exists_resolve_iff,
    fun error => Filter.resolve_eq_error_iff, ?_,
    fun filter' same => same.resolve,
    fun wanted except => Filter.resolve_forms_outside,
    fun wanted except => Filter.resolve_paradigms_outside⟩
  intro selection accepted
  rcases Filter.resolve_eq_ok_iff.mp accepted with ⟨-, -, forms, paradigms⟩
  rw [forms, paradigms]
  exact ⟨fun _ => selects_iff, fun _ => selects_iff⟩

/-- A book that declares a form and a paradigm twice. -/
def bookWithRepeats : RuleBook where
  forms := ["prs", "imp", "prs"]
  paradigms := [⟨"1", "sg"⟩, ⟨"2", "sg"⟩, ⟨"1", "sg"⟩]
  verbs := []
  verbSets := []
  verbs_distinct := List.nodup_nil
  verbSets_distinct := List.nodup_nil

/-- A filter that repeats itself. -/
def filterWithRepeats : Filter where
  forms := some ["imp", "prs", "imp"]
  formsExcept := ["imp", "cond", "imp"]
  paradigmsExcept := [⟨"2", "sg"⟩]

/-- A filter that says the same in other words. -/
def filterWithoutRepeats : Filter where
  forms := some ["prs", "imp"]
  formsExcept := ["imp"]
  paradigmsExcept := [⟨"3", "pl"⟩, ⟨"2", "sg"⟩]

theorem saysSame_filterWithoutRepeats :
    filterWithRepeats.SaysSame bookWithRepeats filterWithoutRepeats := by
  refine ⟨⟨.some ?_, ?_⟩, ⟨.none, ?_⟩⟩
  · intro form
    simp only [List.mem_cons, List.not_mem_nil, or_false]
    tauto
  all_goals decide

/-- The two filters select the form that is left both times that it is declared.
To want the first paradigm is to except the second. -/
theorem resolve_decided_by_members_repeated :
    filterWithRepeats.SaysSame bookWithRepeats filterWithoutRepeats ∧
    filterWithRepeats.resolve bookWithRepeats =
      .ok ⟨["prs", "prs"], [⟨"1", "sg"⟩, ⟨"1", "sg"⟩]⟩ ∧
    filterWithoutRepeats.resolve bookWithRepeats =
      .ok ⟨["prs", "prs"], [⟨"1", "sg"⟩, ⟨"1", "sg"⟩]⟩ ∧
    Selects filterWithRepeats.forms filterWithRepeats.formsExcept
      bookWithRepeats.forms ["prs", "prs"] ∧
    ({ filterWithRepeats with
        forms := some ["prs"]
        formsExcept := [] } : Filter).resolve bookWithRepeats =
      ({ filterWithRepeats with
          forms := none
          formsExcept := ["imp"] } : Filter).resolve bookWithRepeats ∧
    ({ filterWithRepeats with
        paradigms := some [⟨"1", "sg"⟩]
        paradigmsExcept := [] } : Filter).resolve bookWithRepeats =
      ({ filterWithRepeats with
          paradigms := none
          paradigmsExcept := [⟨"2", "sg"⟩] } : Filter).resolve
        bookWithRepeats := by
  have accepted :
      filterWithRepeats.resolve bookWithRepeats =
        .ok ⟨["prs", "prs"], [⟨"1", "sg"⟩, ⟨"1", "sg"⟩]⟩ := by
    rfl
  rcases resolve_decided_by_members filterWithRepeats bookWithRepeats with
    ⟨-, -, selected, alike, forms, paradigms⟩
  refine ⟨saysSame_filterWithoutRepeats, accepted, ?_,
    ((selected _ accepted).1 _).mpr rfl,
    forms ["prs"] ["imp"] (by decide) (by decide),
    paradigms [⟨"1", "sg"⟩] [⟨"2", "sg"⟩] (by decide) (by decide)⟩
  have same := alike filterWithoutRepeats saysSame_filterWithoutRepeats
  rw [accepted] at same
  cases isOther : filterWithoutRepeats.resolve bookWithRepeats with
  | error error =>
    rw [isOther] at same
    cases same
  | ok selection =>
    rw [isOther] at same
    cases same with
    | success equal => rw [← equal]

end Inflection
