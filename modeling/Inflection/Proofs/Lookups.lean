import Inflection.Proofs.Inclusion
import Inflection.Proofs.Projection

/-!
# Lookups by form and by key

A conjugation lists its tables, and each table its values, in declared order;
both are also asked by name. A form is answered with its table, even if it is
declared several times, as all its tables are the same.

A key is answered with the first value under it.  This is the value of the
paradigm that was meant, unless another paradigm is written alike: the person
`1` with the quantity `1sg` has the key of the person `11` with the quantity
`sg`.  Then the second value is listed, but no key gives it.
-/

namespace Inflection

open Inflection.Rules Inflection.Markup

namespace Rules.Paradigm

/-- Tells that two paradigms differ, but not in writing. -/
def MistakenFor (paradigm other : Paradigm) : Prop :=
  paradigm ≠ other ∧ paradigm.key = other.key

instance (paradigm other : Paradigm) : Decidable (paradigm.MistakenFor other) :=
  inferInstanceAs (Decidable (_ ∧ _))

/-- Paradigms that are read back from their keys are never mistaken
for each other. -/
theorem not_mistakenFor_of_parse
    {paradigm other : Paradigm}
    (readBack : parse paradigm.key = .ok paradigm)
    (otherReadBack : parse other.key = .ok other) :
    ¬ paradigm.MistakenFor other := by
  rintro ⟨different, alike⟩
  rw [alike, otherReadBack] at readBack
  exact different (Except.ok.inj readBack).symm

example : MistakenFor ⟨"11", "sg"⟩ ⟨"1", "1sg"⟩ := by decide

end Rules.Paradigm

namespace FormTable

variable {table : FormTable}

/-- Tells that a value is the first one under a key. -/
def FirstUnder (table : FormTable) (key value : String) : Prop :=
  ∃ before after,
    table.slots = before ++ (key, value) :: after ∧
      ∀ slot ∈ before, slot.1 ≠ key

theorem get?_eq_some_iff {key value : String} :
    table.get? key = some value ↔ table.FirstUnder key value := by
  unfold get? FirstUnder
  constructor
  · intro answered
    rcases Option.map_eq_some_iff.mp answered with ⟨⟨key', value'⟩, found, rfl⟩
    rcases List.find?_eq_some_iff_append.mp found with
      ⟨isKey, before, after, split, passed⟩
    obtain rfl : key' = key := of_decide_eq_true isKey
    exact ⟨before, after, split,
      fun slot isBefore => by simpa using passed slot isBefore⟩
  · rintro ⟨before, after, split, passed⟩
    have found :
        table.slots.find? (fun slot => slot.1 = key) = some (key, value) :=
      List.find?_eq_some_iff_append.mpr
        ⟨by simp, before, after, split,
          fun slot isBefore => by simpa using passed slot isBefore⟩
    rw [found, Option.map_some]

/-- No key that is listed is without an answer. -/
theorem exists_get?_of_mem
    {slot : String × String}
    (listed : slot ∈ table.slots) :
    ∃ first, table.get? slot.1 = some first := by
  have found : (table.slots.find? fun other => other.1 = slot.1).isSome := by
    rw [List.find?_isSome]
    exact ⟨slot, listed, by simp⟩
  rcases Option.isSome_iff_exists.mp found with ⟨first, isFirst⟩
  exact ⟨first.2, by rw [get?, isFirst, Option.map_some]⟩

end FormTable

namespace FormSheet

variable {sheet : FormSheet}

/-- A key is answered with the value of the first paradigm that is written
so. -/
theorem get?_table (sheet : FormSheet) (key : String) :
    sheet.table.get? key =
      (sheet.values.find? fun value => value.1.key = key).map Prod.snd := by
  unfold table FormTable.get?
  rw [List.find?_map, Option.map_map]
  rfl

/-- Repeated paradigms do no harm if each has one value. -/
theorem get?_table_of_not_mistaken
    {value? : Paradigm → Option String}
    {earlier later : List (Paradigm × String)}
    {paradigm : Paradigm}
    {value : String}
    (reads : ∀ entry ∈ sheet.values, value? entry.1 = some entry.2)
    (split : sheet.values = earlier ++ (paradigm, value) :: later)
    (clear : ∀ entry ∈ earlier, ¬ paradigm.MistakenFor entry.1) :
    sheet.table.get? paradigm.key = some value := by
  rw [get?_table, split, List.find?_append]
  cases found : earlier.find? fun entry => entry.1.key = paradigm.key with
  | none => simp
  | some entry =>
    have isEarlier : entry ∈ earlier := List.mem_of_find?_eq_some found
    have alike : entry.1.key = paradigm.key := by
      simpa using List.find?_some found
    have same : paradigm = entry.1 :=
      Decidable.byContradiction fun different =>
        clear entry isEarlier ⟨different, alike.symm⟩
    have here : value? paradigm = some value :=
      reads (paradigm, value) (by simp [split])
    have there : value? entry.1 = some entry.2 :=
      reads entry (by simp [split, isEarlier])
    rw [← same, here] at there
    rw [Option.some_or, Option.map_some, ← there]

end FormSheet

namespace Inflector

/-- The values of a verb in one form, each with its paradigm, for the
selected paradigms. -/
def sheet (inflector : Inflector) (verb form : String) : FormSheet :=
  ⟨form, inflector.selection.paradigms.filterMap fun paradigm =>
    (inflector.book.value? verb form paradigm).map fun value =>
      (paradigm, value)⟩

variable {inflector : Inflector} {verb : String} {conjugation : Conjugation}

/-- A sheet has the values in the selected places. -/
theorem mem_sheet_iff {form : String} {entry : Paradigm × String} :
    entry ∈ (inflector.sheet verb form).values ↔
      entry.1 ∈ inflector.selection.paradigms ∧
      inflector.book.value? verb form entry.1 = some entry.2 := by
  unfold sheet
  constructor
  · intro isThere
    rcases List.mem_filterMap.mp isThere with ⟨paradigm, selected, isEntry⟩
    rcases Option.map_eq_some_iff.mp isEntry with ⟨value, isValue, rfl⟩
    exact ⟨selected, isValue⟩
  · rintro ⟨selected, isValue⟩
    exact List.mem_filterMap.mpr
      ⟨entry.1, selected, by rw [isValue, Option.map_some]⟩

theorem value?_of_mem_sheet
    {form : String}
    (entry : Paradigm × String)
    (isThere : entry ∈ (inflector.sheet verb form).values) :
    inflector.book.value? verb form entry.1 = some entry.2 :=
  (mem_sheet_iff.mp isThere).2

/-- The tables of a conjugation are those of the sheets of the
selected forms. -/
theorem forms_of_conjugate
    (conjugated : inflector.conjugate verb = .ok (some conjugation)) :
    conjugation.forms =
      inflector.selection.forms.map fun form =>
        (inflector.sheet verb form).table := by
  unfold conjugate RuleBook.conjugate at conjugated
  cases found : ancestryOf inflector.book verb with
  | error broken =>
    rw [found] at conjugated
    cases conjugated
  | ok picked =>
    cases picked with
    | none =>
      rw [found] at conjugated
      cases conjugated
    | some ancestry =>
      rw [found] at conjugated
      cases conjugated
      have values : inflector.book.value? verb = ancestry.value? verb := by
        rw [RuleBook.value?, found]
      unfold Ancestry.conjugate
      apply List.map_congr_left
      intro form _
      simp [Ancestry.conjugateForm, sheet, FormSheet.table, List.map_filterMap,
        values, funext (ancestry.slot?_eq verb form), Option.map_map,
        Function.comp_def]

/-- Each table is that of the sheet of its form. -/
theorem table_eq_of_mem
    (conjugated : inflector.conjugate verb = .ok (some conjugation))
    {table : FormTable}
    (listed : table ∈ conjugation.forms) :
    table = (inflector.sheet verb table.form).table := by
  rw [forms_of_conjugate conjugated] at listed
  rcases List.mem_map.mp listed with ⟨form, _, rfl⟩
  rfl

/-- A form is answered with each of its tables, since they are the same. -/
theorem get?_form_of_mem
    (conjugated : inflector.conjugate verb = .ok (some conjugation))
    {table : FormTable}
    (listed : table ∈ conjugation.forms) :
    conjugation.get? table.form = some table := by
  unfold Conjugation.get?
  cases found : conjugation.forms.find? fun other =>
      other.form = table.form with
  | none => simpa using List.find?_eq_none.mp found table listed
  | some other =>
    have otherListed : other ∈ conjugation.forms :=
      List.mem_of_find?_eq_some found
    have sameForm : other.form = table.form := by
      simpa using List.find?_some found
    rw [table_eq_of_mem conjugated otherListed, sameForm,
      ← table_eq_of_mem conjugated listed]

/-- If no two selected paradigms are written alike, each listed value is the
answer to its key. -/
theorem get?_of_mem_of_not_mistaken
    (conjugated : inflector.conjugate verb = .ok (some conjugation))
    (clear :
      ∀ paradigm ∈ inflector.selection.paradigms,
        ∀ other ∈ inflector.selection.paradigms,
        ¬ paradigm.MistakenFor other)
    {table : FormTable}
    (listed : table ∈ conjugation.forms)
    {slot : String × String}
    (isSlot : slot ∈ table.slots) :
    table.get? slot.1 = some slot.2 := by
  rw [table_eq_of_mem conjugated listed] at isSlot ⊢
  rcases List.mem_map.mp isSlot with ⟨⟨paradigm, value⟩, isThere, rfl⟩
  rcases List.append_of_mem isThere with ⟨earlier, later, split⟩
  apply FormSheet.get?_table_of_not_mistaken value?_of_mem_sheet split
  intro entry isEarlier
  have isEntry : entry ∈ (inflector.sheet verb table.form).values := by
    simp [split, isEarlier]
  exact clear paradigm (mem_sheet_iff.mp isThere).1 entry.1
    (mem_sheet_iff.mp isEntry).1

end Inflector

/-- A listed form is answered with its table.  A listed key is answered with the
first value under it, and this is the value of the paradigm meant, unless the
value of a paradigm that it is mistaken for is listed before. -/
theorem lookup_answers_first
    {inflector : Inflector}
    {verb : String}
    {conjugation : Conjugation}
    (conjugated : inflector.conjugate verb = .ok (some conjugation)) :
    ∀ table ∈ conjugation.forms,
      conjugation.get? table.form = some table ∧
      (∀ slot ∈ table.slots,
        ∃ first, table.FirstUnder slot.1 first ∧
          table.get? slot.1 = some first) ∧
      table = (inflector.sheet verb table.form).table ∧
      ∀ earlier paradigm value later,
        (inflector.sheet verb table.form).values =
          earlier ++ (paradigm, value) :: later →
        (∀ entry ∈ earlier, ¬ paradigm.MistakenFor entry.1) →
        table.get? paradigm.key = some value := by
  intro table listed
  have isTable := Inflector.table_eq_of_mem conjugated listed
  refine ⟨Inflector.get?_form_of_mem conjugated listed, ?_, isTable, ?_⟩
  · intro slot isSlot
    rcases table.exists_get?_of_mem isSlot with ⟨first, answered⟩
    exact ⟨first, FormTable.get?_eq_some_iff.mp answered, answered⟩
  · intro earlier paradigm value later split clear
    rw [isTable]
    exact FormSheet.get?_table_of_not_mistaken Inflector.value?_of_mem_sheet
      split clear

/-- A document with two paradigms of one key, and a verb with an ending for
each of them. -/
def documentWithTwoEndings : Element :=
  plainElement "verbs" [] [
    plainElement "meta" [] [
      plainElement "forms" [] [⟨⟨none, "form", []⟩, [.text "prs"]⟩],
      plainElement "paradigms" [] [
        plainElement "paradigm" [("person", "1"), ("quant", "1sg")] [],
        plainElement "paradigm" [("person", "11"), ("quant", "sg")] []]],
    plainElement "verb" [("word", "aim")] [
      plainElement "group" [("id", "prs")] [
        plainElement "pdgmgroup" [("id", "1")]
          [⟨⟨none, "append", []⟩, [.text "e"]⟩],
        plainElement "pdgmgroup" [("id", "11")]
          [⟨⟨none, "append", []⟩, [.text "ons"]⟩]]]]

/-- The verb of this document. -/
def verbWithTwoEndings : Entry .verb where
  name := "aim"
  inherit := none
  forms :=
    .put FormRules.merge .empty "prs"
      ⟨.unset,
        .put PersonRules.merge
          (.put PersonRules.merge .empty "1"
            ⟨false, { append := some "e" }, .empty⟩)
          "11" ⟨false, { append := some "ons" }, .empty⟩⟩

/-- The book of this document. -/
def bookWithTwoEndings : RuleBook where
  forms := ["prs"]
  paradigms := [⟨"1", "1sg"⟩, ⟨"11", "sg"⟩]
  verbs := [verbWithTwoEndings]
  verbSets := []
  verbs_distinct := List.pairwise_singleton ..
  verbSets_distinct := List.nodup_nil

theorem ofElement_documentWithTwoEndings :
    RuleBook.ofElement documentWithTwoEndings = .ok bookWithTwoEndings := by
  rfl

/-- The table of the verb. -/
def tableWithTwoEndings : FormTable :=
  ⟨"prs", [("11sg", "aime"), ("11sg", "aimons")]⟩

theorem exists_inflector_with_two_endings :
    ∃ inflector,
      Inflector.ofBook "fr" bookWithTwoEndings {} = .ok inflector ∧
      inflector.conjugate "aim" = .ok (some ⟨[tableWithTwoEndings]⟩) ∧
      (inflector.sheet "aim" "prs").values =
        [(⟨"1", "1sg"⟩, "aime"), (⟨"11", "sg"⟩, "aimons")] := by
  rcases Inflector.exists_ofBook "fr"
      (Filter.resolve_unrestricted bookWithTwoEndings) with
    ⟨inflector, made⟩
  refine ⟨inflector, made, ?_⟩
  have found :
      ancestryOf bookWithTwoEndings "aim" =
        .ok (some ⟨verbWithTwoEndings, []⟩) := by
    cbv
  have values :
      bookWithTwoEndings.value? "aim" =
        Ancestry.value? ⟨verbWithTwoEndings, []⟩ "aim" := by
    rw [RuleBook.value?, found]
  cases made
  constructor
  · rw [Inflector.conjugate, RuleBook.conjugate, found]
    rfl
  · rw [Inflector.sheet, values]
    rfl

/-- The form is found, and its key gives the first of the two values. -/
theorem lookup_answers_first_two_endings :
    ∃ inflector : Inflector,
      inflector.conjugate "aim" = .ok (some ⟨[tableWithTwoEndings]⟩) ∧
      Conjugation.get? ⟨[tableWithTwoEndings]⟩ "prs" =
        some tableWithTwoEndings ∧
      tableWithTwoEndings.get? "11sg" = some "aime" := by
  rcases exists_inflector_with_two_endings with
    ⟨inflector, -, conjugated, values⟩
  rcases lookup_answers_first conjugated tableWithTwoEndings
      List.mem_cons_self with
    ⟨sameForm, -, -, answers⟩
  have answered := answers [] ⟨"1", "1sg"⟩ "aime" _ values (by simp)
  exact ⟨inflector, conjugated, sameForm, answered⟩

/-- The second value is listed under a key that does not give it. -/
theorem aimons_listed_aime_answered :
    ∃ book inflector conjugation table,
      RuleBook.ofElement documentWithTwoEndings = .ok book ∧
      Inflector.ofBook "fr" book {} = .ok inflector ∧
      inflector.conjugate "aim" = .ok (some conjugation) ∧
      table ∈ conjugation.forms ∧
      ("11sg", "aimons") ∈ table.slots ∧
      table.get? "11sg" = some "aime" := by
  rcases exists_inflector_with_two_endings with ⟨inflector, made, conjugated, -⟩
  exact ⟨bookWithTwoEndings, inflector, ⟨[tableWithTwoEndings]⟩,
    tableWithTwoEndings,
    ofElement_documentWithTwoEndings, made, conjugated, List.mem_cons_self,
    by simp [tableWithTwoEndings], by decide⟩

end Inflection
