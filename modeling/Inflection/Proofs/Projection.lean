import Inflection.Proofs.Selection

/-!
# Filters only project

A conjugation shows values under the keys of their paradigms, and different
paradigms may have one key. So what a filter takes away is described on sheets,
where the values still stand under their paradigms.

The value in one place depends on the book, the verb and the place alone.  A
filter neither changes nor moves it; it takes away whole forms, and in the forms
that are left the paradigms that it does not admit.
-/

namespace Inflection

open Inflection.Rules

/-- The values of one form, each with its paradigm. -/
structure FormSheet where
  form : String
  values : List (Paradigm × String)

namespace FormSheet

/-- The table of the form: each value under the key of its paradigm. -/
def table (sheet : FormSheet) : FormTable :=
  ⟨sheet.form, sheet.values.map fun value => (value.1.key, value.2)⟩

/-- The sheet with the paradigms that a filter admits. -/
def keep (filter : Filter) (sheet : FormSheet) : FormSheet :=
  ⟨sheet.form, sheet.values.filter fun value => filter.AdmitsParadigm value.1⟩

end FormSheet

/-- The sheets of all declared forms, if the values in all places are given. -/
def declaredSheets
    (book : RuleBook)
    (value? : String → Paradigm → Option String) :
    List FormSheet :=
  book.forms.map fun form =>
    ⟨form, book.paradigms.filterMap fun paradigm =>
      (value? form paradigm).map fun value => (paradigm, value)⟩

/-- What a filter leaves of some sheets. -/
def projectSheets
    (filter : Filter)
    (sheets : List FormSheet) :
    List FormSheet :=
  (sheets.filter fun sheet => filter.AdmitsForm sheet.form).map
    (FormSheet.keep filter)

/-- The conjugation that some sheets show. -/
def conjugationOf (sheets : List FormSheet) : Conjugation :=
  ⟨sheets.map FormSheet.table⟩

/-- The filter that restricts nothing leaves the sheets as they are. -/
theorem projectSheets_unrestricted (sheets : List FormSheet) :
    projectSheets {} sheets = sheets := by
  have kept : ∀ sheet : FormSheet, sheet.keep {} = sheet := by
    intro sheet
    unfold FormSheet.keep
    rw [List.filter_eq_self.mpr (by simp)]
  unfold projectSheets
  rw [List.filter_eq_self.mpr (by simp)]
  exact List.map_id'' kept sheets

/-- Values may be looked up for the admitted paradigms only, or for all and
then sorted out. -/
theorem filterMap_filter_key
    (admitted : Paradigm → Bool)
    (value? : Paradigm → Option String)
    (paradigms : List Paradigm) :
    (paradigms.filter admitted).filterMap
        (fun paradigm =>
          (value? paradigm).map fun value => (paradigm.key, value)) =
      ((paradigms.filterMap
          fun paradigm =>
            (value? paradigm).map fun value => (paradigm, value)).filter
        fun entry => admitted entry.1).map
        fun entry => (entry.1.key, entry.2) := by
  induction paradigms with
  | nil => rfl
  | cons paradigm rest ih =>
    cases isAdmitted : admitted paradigm with
    | false =>
      rw [List.filter_cons_of_neg (by simp [isAdmitted]), ih]
      cases isThere : value? paradigm with
      | none => simp [isThere]
      | some value => simp [isThere, isAdmitted]
    | true =>
      rw [List.filter_cons_of_pos isAdmitted, List.filterMap_cons, ih]
      cases isThere : value? paradigm with
      | none => simp [isThere]
      | some value => simp [isThere, isAdmitted]

namespace Ancestry

/-- The value of a verb in one place, unless the place is ignored. -/
def value?
    (ancestry : Ancestry)
    (verb form : String)
    (paradigm : Paradigm) :
    Option String :=
  (ancestry.modifiersAt? form paradigm).map fun modifiers =>
    modifiers.apply verb

theorem slot?_eq
    (ancestry : Ancestry)
    (verb form : String)
    (paradigm : Paradigm) :
    ancestry.slot? verb form paradigm =
      (ancestry.value? verb form paradigm).map fun value =>
        (paradigm.key, value) := by
  simp [slot?, value?, Option.map_map, Function.comp_def]

/-- What is conjugated for a filter is what the filter leaves of the sheets. -/
theorem conjugate_admitted
    (ancestry : Ancestry)
    (verb : String)
    (filter : Filter)
    (book : RuleBook) :
    ancestry.conjugate verb (filter.admitted book) =
      conjugationOf (projectSheets filter
        (declaredSheets book (ancestry.value? verb))) := by
  have slots :
      ∀ form, ancestry.slot? verb form = fun paradigm =>
        (ancestry.value? verb form paradigm).map fun value =>
          (paradigm.key, value) :=
    fun form => funext (ancestry.slot?_eq verb form)
  simp only [conjugate, conjugationOf, projectSheets, declaredSheets,
    Filter.admitted, List.filter_map, List.map_map]
  congr 1
  apply List.map_congr_left
  intro form _
  simp only [conjugateForm, Function.comp_apply, FormSheet.table,
    FormSheet.keep, slots]
  rw [filterMap_filter_key]

end Ancestry

/-- The value of a verb in one place by a book, if there is one. -/
def Rules.RuleBook.value? (book : RuleBook) (verb : String) :
    String → Paradigm → Option String :=
  match ancestryOf book verb with
  | .ok (some ancestry) => ancestry.value? verb
  | _ => fun _ _ => none

/-- An inflector gives what its filter leaves of the sheets of its book. -/
theorem Inflector.conjugate_eq_projection
    (inflector : Inflector)
    (verb : String) :
    inflector.conjugate verb =
      (ancestryOf inflector.book verb).map (Option.map fun _ =>
        conjugationOf (projectSheets inflector.filter
          (declaredSheets inflector.book (inflector.book.value? verb)))) := by
  unfold conjugate RuleBook.conjugate
  rw [inflector.selection_eq_admitted]
  simp only [Ancestry.conjugate_admitted]
  cases found : ancestryOf inflector.book verb with
  | error broken => rfl
  | ok picked =>
    cases picked with
    | none => rfl
    | some ancestry =>
      simp [Except.map, RuleBook.value?, found]

/-- All inflectors with one book read the values of a verb from one partial map.
The filter that restricts nothing is accepted.  Under any other accepted filter,
a verb has the same error, or no conjugation just as well, or a conjugation that
differs by what the filter takes away of the sheets. -/
theorem conjugate_projects
    (language : String)
    (book : RuleBook)
    (verb : String) :
    ∃ (full : Inflector) (value? : String → Paradigm → Option String),
      Inflector.ofBook language book {} = .ok full ∧
      ∀ (filter : Filter) (inflector : Inflector),
        Inflector.ofBook language book filter = .ok inflector →
        (∀ error, inflector.conjugate verb = .error error ↔
          full.conjugate verb = .error error) ∧
        (inflector.conjugate verb = .ok none ↔ full.conjugate verb = .ok none) ∧
        ∀ conjugation, full.conjugate verb = .ok (some conjugation) →
          conjugation = conjugationOf (declaredSheets book value?) ∧
          inflector.conjugate verb =
            .ok (some (conjugationOf
              (projectSheets filter (declaredSheets book value?)))) := by
  rcases Inflector.exists_ofBook language
      (Filter.resolve_unrestricted book) with
    ⟨full, made⟩
  rcases Inflector.parts_of_ofBook made with ⟨-, fullBook, fullFilter⟩
  refine ⟨full, book.value? verb, made, ?_⟩
  intro filter inflector accepted
  rcases Inflector.parts_of_ofBook accepted with ⟨-, sameBook, sameFilter⟩
  have fullAnswer := full.conjugate_eq_projection verb
  have answer := inflector.conjugate_eq_projection verb
  rw [fullBook, fullFilter, projectSheets_unrestricted] at fullAnswer
  rw [sameBook, sameFilter] at answer
  rw [answer, fullAnswer]
  cases ancestryOf book verb with
  | error broken => simp [Except.map]
  | ok picked =>
    cases picked with
    | none => simp [Except.map]
    | some ancestry => simp [Except.map, eq_comm]

/-- A verb with endings for two persons. -/
def verbWithEndings : Entry .verb where
  name := "aller"
  inherit := none
  forms :=
    .put FormRules.merge .empty "prs"
      ⟨{ removed := some 2 },
        .put PersonRules.merge
          (.put PersonRules.merge .empty "1"
            ⟨false, { append := some "ais" }, .empty⟩)
          "11" ⟨false, { append := some "ions" }, .empty⟩⟩

/-- A book with two paradigms of one key, which have different endings. -/
def bookWithOneKeyTwice : RuleBook where
  forms := ["prs", "imp"]
  paradigms := [⟨"1", "1sg"⟩, ⟨"11", "sg"⟩, ⟨"2", "sg"⟩]
  verbs := [verbWithEndings]
  verbSets := []
  verbs_distinct := List.pairwise_singleton ..
  verbSets_distinct := List.nodup_nil

/-- A filter that excepts one form, one paradigm, and a form that is
not declared. -/
def filterWithExceptions : Filter where
  formsExcept := ["imp", "cond"]
  paradigmsExcept := [⟨"1", "1sg"⟩]

/-- The conjugation without a filter. -/
def conjugationInFull : Conjugation :=
  ⟨[⟨"prs", [("11sg", "allais"), ("11sg", "allions"), ("2sg", "all")]⟩,
    ⟨"imp", [("11sg", "aller"), ("11sg", "aller"), ("2sg", "aller")]⟩]⟩

/-- The conjugation with this filter. -/
def conjugationWithExceptions : Conjugation :=
  ⟨[⟨"prs", [("11sg", "allions"), ("2sg", "all")]⟩]⟩

/-- The filter takes away the form and the paradigm, and leaves the other
paradigm of the same key. -/
theorem conjugate_projects_exceptions :
    ∃ (full inflector : Inflector) (value? : String → Paradigm → Option String),
      Inflector.ofBook "fr" bookWithOneKeyTwice {} = .ok full ∧
      Inflector.ofBook "fr" bookWithOneKeyTwice filterWithExceptions =
        .ok inflector ∧
      full.conjugate "aller" = .ok (some conjugationInFull) ∧
      inflector.conjugate "aller" = .ok (some conjugationWithExceptions) ∧
      conjugationInFull =
        conjugationOf (declaredSheets bookWithOneKeyTwice value?) ∧
      conjugationWithExceptions =
        conjugationOf (projectSheets filterWithExceptions
          (declaredSheets bookWithOneKeyTwice value?)) := by
  have accepted :
      filterWithExceptions.resolve bookWithOneKeyTwice =
        .ok ⟨["prs"], [⟨"11", "sg"⟩, ⟨"2", "sg"⟩]⟩ := by
    rfl
  rcases Inflector.exists_ofBook "fr" accepted with ⟨inflector, isMade⟩
  rcases conjugate_projects "fr" bookWithOneKeyTwice "aller" with
    ⟨full, value?, made, projected⟩
  have found :
      ancestryOf bookWithOneKeyTwice "aller" =
        .ok (some ⟨verbWithEndings, []⟩) := by
    cbv
  have inFull : full.conjugate "aller" = .ok (some conjugationInFull) := by
    cases made
    rw [Inflector.conjugate, RuleBook.conjugate, found]
    rfl
  have withExceptions :
      inflector.conjugate "aller" = .ok (some conjugationWithExceptions) := by
    cases isMade
    rw [Inflector.conjugate, RuleBook.conjugate, found]
    rfl
  rcases (projected filterWithExceptions inflector isMade).2.2 _ inFull with
    ⟨ofSheets, left⟩
  have ofProjected :=
    Option.some.inj (Except.ok.inj (withExceptions.symm.trans left))
  exact ⟨full, inflector, value?, made, isMade, inFull, withExceptions,
    ofSheets, ofProjected⟩

end Inflection
