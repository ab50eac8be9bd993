import Inflection.Rules.Paradigm
import Inflection.Text.Offset
import Inflection.Text.Run

/-!
# Paradigms in writing

A paradigm is written as its person followed by its quantity.  The texts that
are read as paradigms are those that start with digits and go on with something
else.  A paradigm is read back from its written form exactly if it is legible:
its person is all digits, its quantity starts with none, and neither is empty. A
rule file may declare other paradigms; no text is read as one of those.

A text is split where its first character that is no digit starts, which is
never within a character.
-/

namespace Inflection.Rules.Paradigm

open Inflection.Text

/-- Tells that a paradigm can be told from how it is written. -/
structure Legible (paradigm : Paradigm) : Prop where
  person_ne : paradigm.person ≠ ""
  digits : ∀ char ∈ paradigm.person.toList, char.isDigit = true
  quantity_ne : paradigm.quantity ≠ ""
  stops : ∀ char ∈ paradigm.quantity.toList.head?, char.isDigit = false

section

variable {text : String} {paradigm other : Paradigm} {error : FilterError}

theorem legible_and_key_eq_iff :
    paradigm.Legible ∧ paradigm.key = text ↔
      IsRun Char.isDigit text.toList paradigm.person.toList
        paradigm.quantity.toList ∧
        paradigm.person ≠ "" ∧ paradigm.quantity ≠ "" := by
  constructor
  · rintro ⟨legible, rfl⟩
    exact ⟨⟨String.toList_append, legible.digits, legible.stops⟩,
      legible.person_ne, legible.quantity_ne⟩
  · rintro ⟨run, person, quantity⟩
    refine ⟨⟨person, run.alike, quantity, run.stops⟩, ?_⟩
    rw [key, ← String.toList_inj, String.toList_append, run.text]

theorem parse_of_empty (empty : text.toList.takeWhile Char.isDigit = [] ∨
      text.toList.dropWhile Char.isDigit = []) :
    parse text = .error (.notAParadigm text) := by
  rw [parse, if_pos (by simpa using empty)]

theorem parse_of_not_empty
    (notEmpty : ¬ (text.toList.takeWhile Char.isDigit = [] ∨
      text.toList.dropWhile Char.isDigit = [])) :
    parse text =
      .ok ⟨String.ofList (text.toList.takeWhile Char.isDigit),
        String.ofList (text.toList.dropWhile Char.isDigit)⟩ := by
  rw [parse, if_neg (by simpa using notEmpty)]

/-- A text is read as the legible paradigm that it writes. -/
theorem parse_eq_ok_iff :
    parse text = .ok paradigm ↔ paradigm.Legible ∧ paradigm.key = text := by
  rw [legible_and_key_eq_iff, isRun_iff]
  rcases paradigm with ⟨person, quantity⟩
  by_cases empty :
      text.toList.takeWhile Char.isDigit = [] ∨
        text.toList.dropWhile Char.isDigit = []
  · rw [parse_of_empty empty]
    constructor
    · intro isRead
      cases isRead
    · rintro ⟨⟨isPerson, isQuantity⟩, notEmpty⟩
      rcases empty with nothing | nothing
      · exact absurd (String.toList_eq_nil_iff.mp (isPerson.trans nothing))
          notEmpty.1
      · exact absurd (String.toList_eq_nil_iff.mp (isQuantity.trans nothing))
          notEmpty.2
  · rw [parse_of_not_empty empty]
    rw [not_or] at empty
    constructor
    · intro isRead
      cases isRead
      simpa using empty
    · rintro ⟨⟨isPerson, isQuantity⟩, -⟩
      rw [← isPerson, ← isQuantity, String.ofList_toList, String.ofList_toList]

/-- A text that is not read as a paradigm is refused as it is. -/
theorem parse_eq_error_iff :
    parse text = .error error ↔
      (∀ paradigm, parse text ≠ .ok paradigm) ∧ error = .notAParadigm text := by
  by_cases empty :
      text.toList.takeWhile Char.isDigit = [] ∨
        text.toList.dropWhile Char.isDigit = []
  · simp [parse_of_empty empty, eq_comm]
  · simp [parse_of_not_empty empty]

theorem exists_parse_iff :
    (∃ paradigm, parse text = .ok paradigm) ↔
      ∃ digits rest, IsRun Char.isDigit text.toList digits rest ∧ digits ≠ [] ∧
        rest ≠ [] := by
  constructor
  · rintro ⟨paradigm, isRead⟩
    rcases legible_and_key_eq_iff.mp (parse_eq_ok_iff.mp isRead) with
      ⟨run, person, quantity⟩
    exact ⟨_, _, run, by simpa using person, by simpa using quantity⟩
  · rintro ⟨digits, rest, run, someDigit, someRest⟩
    rcases isRun_iff.mp run with ⟨rfl, rfl⟩
    exact ⟨_, parse_of_not_empty (not_or.mpr ⟨someDigit, someRest⟩)⟩

theorem parse_key_iff :
    parse paradigm.key = .ok paradigm ↔ paradigm.Legible := by
  rw [parse_eq_ok_iff, and_iff_left rfl]

theorem Legible.eq_of_key_eq
    (legible : paradigm.Legible)
    (otherLegible : other.Legible)
    (alike : paradigm.key = other.key) :
    paradigm = other := by
  have isRead := parse_key_iff.mpr legible
  rw [alike, parse_key_iff.mpr otherLegible] at isRead
  exact (Except.ok.inj isRead).symm

end

/-! ## Reading by bytes -/

/-- The byte at which a written paradigm is split: where the first character
that is no digit starts, or the end if there is none. -/
def splitOffset (text : String) : Nat :=
  ((starts text).find? fun start => !start.2.isDigit).elim
    text.utf8ByteSize Prod.fst

/-- Reads a written paradigm by bytes.  There is nothing if the text would be
split within a character. -/
def parseByBytes? (text : String) : Option (Except FilterError Paradigm) :=
  let split := splitOffset text
  if split = 0 ∨ split = text.utf8ByteSize then
    some (.error (.notAParadigm text))
  else
    (cutAt? text split).map fun parts => .ok ⟨parts.1, parts.2⟩

variable {text : String}

theorem splitOffset_of_isRun
    {digits rest : List Char}
    (run : IsRun Char.isDigit text.toList digits rest) :
    splitOffset text = (String.ofList digits).utf8ByteSize := by
  have passed :
      (startsFrom 0 digits).find? (fun start => !start.2.isDigit) = none := by
    rw [List.find?_eq_none]
    intro start isStart
    have isDigit : start.2 ∈ digits := by
      rw [← map_snd_startsFrom 0 digits]
      exact List.mem_map_of_mem isStart
    simp [run.alike start.2 isDigit]
  rw [splitOffset, starts, run.text, startsFrom_append, List.find?_append,
    passed, Option.none_or]
  cases rest with
  | nil =>
    rw [run.eq_append]
    simp [startsFrom]
  | cons char rest =>
    rw [startsFrom, List.find?_cons_of_pos (by simp [run.stops char rfl]),
      Nat.zero_add]
    rfl

/-- Reading by bytes never fails, and reads the same. -/
theorem parseByBytes?_eq
    (text : String) :
    parseByBytes? text = some (parse text) := by
  have run : IsRun Char.isDigit text.toList _ _ := isRun_iff.mpr ⟨rfl, rfl⟩
  generalize isDigits : text.toList.takeWhile Char.isDigit = digits at run
  generalize isRest : text.toList.dropWhile Char.isDigit = rest at run
  have split := splitOffset_of_isRun run
  have size := congrArg String.utf8ByteSize run.eq_append
  rw [String.utf8ByteSize_append] at size
  have atStart : splitOffset text = 0 ↔ digits = [] := by
    rw [split, String.utf8ByteSize_eq_zero_iff, String.ofList_eq_empty_iff]
  have atEnd : splitOffset text = text.utf8ByteSize ↔ rest = [] := by
    rw [split, size, ← String.ofList_eq_empty_iff (l := rest),
      ← String.utf8ByteSize_eq_zero_iff]
    omega
  unfold parseByBytes?
  by_cases empty : digits = [] ∨ rest = []
  · rw [if_pos (by rwa [atStart, atEnd]),
      parse_of_empty (by rwa [isDigits, isRest])]
  · have cut : cutAt? text (splitOffset text) = some (String.ofList digits,
        String.ofList rest) :=
      cutAt?_eq_some_iff.mpr ⟨run.eq_append, split⟩
    rw [if_neg (by rwa [atStart, atEnd]), cut,
      parse_of_not_empty (by rwa [isDigits, isRest]), isDigits, isRest]
    rfl

/-- The place of the split is between two characters. -/
theorem isValid_splitOffset (text : String) :
    String.Pos.Raw.IsValid text ⟨splitOffset text⟩ := by
  have run : IsRun Char.isDigit text.toList _ _ := isRun_iff.mpr ⟨rfl, rfl⟩
  exact String.Pos.Raw.isValid_iff_exists_append.mpr
    ⟨_, _, run.eq_append, congrArg String.Pos.Raw.mk (splitOffset_of_isRun run)⟩

/-- Reading and writing paradigms are inverse to each other between the legible
paradigms and the texts that have digits followed by something else.  All other
texts are refused, and no text names a paradigm that is not legible.  The byte
at which a text is split is never within a character. -/
theorem parse_inverse_to_key :
    (∀ text, (∃ paradigm, parse text = .ok paradigm) ↔
      ∃ digits rest, IsRun Char.isDigit text.toList digits rest ∧ digits ≠ [] ∧
        rest ≠ []) ∧
    (∀ text paradigm, parse text = .ok paradigm →
      IsRun Char.isDigit text.toList paradigm.person.toList
        paradigm.quantity.toList ∧
      paradigm.key = text) ∧
    (∀ text error, parse text = .error error ↔
      (∀ paradigm, parse text ≠ .ok paradigm) ∧ error = .notAParadigm text) ∧
    (∀ paradigm : Paradigm, parse paradigm.key = .ok paradigm ↔
      paradigm.Legible) ∧
    (∀ paradigm other : Paradigm, paradigm.Legible → other.Legible →
      paradigm.key = other.key → paradigm = other) ∧
    (∀ paradigm, (∃ text, parse text = .ok paradigm) ↔ paradigm.Legible) ∧
    ∀ text,
      String.Pos.Raw.IsValid text ⟨splitOffset text⟩ ∧
        parseByBytes? text = some (parse text) := by
  refine ⟨fun text => exists_parse_iff, ?_,
    fun text error => parse_eq_error_iff, fun paradigm => parse_key_iff,
    fun paradigm other => Legible.eq_of_key_eq, ?_,
    fun text => ⟨isValid_splitOffset text, parseByBytes?_eq text⟩⟩
  · intro text paradigm isRead
    have written := parse_eq_ok_iff.mp isRead
    exact ⟨(legible_and_key_eq_iff.mp written).1, written.2⟩
  · intro paradigm
    constructor
    · rintro ⟨text, isRead⟩
      exact (parse_eq_ok_iff.mp isRead).1
    · intro legible
      exact ⟨paradigm.key, parse_key_iff.mpr legible⟩

/-- A paradigm whose quantity starts with a digit of another script, and takes
three bytes. -/
def paradigmOfWideDigit : Paradigm :=
  ⟨"12", "２"⟩

/-- It is read back from its written form, which is split behind the
second byte. -/
theorem parse_inverse_to_key_wide_digit :
    paradigmOfWideDigit.Legible ∧
    parse paradigmOfWideDigit.key = .ok paradigmOfWideDigit ∧
    (∀ other : Paradigm, other.Legible → other.key = "12２" →
      other = paradigmOfWideDigit) ∧
    String.Pos.Raw.IsValid "12２" ⟨splitOffset "12２"⟩ := by
  have legible : paradigmOfWideDigit.Legible := by
    refine ⟨by decide, List.all_eq_true.mp (by decide), by decide, ?_⟩
    rintro char ⟨⟩
    decide
  rcases parse_inverse_to_key with
    ⟨-, written, -, readBack, injective, -, byBytes⟩
  have isRead := (readBack paradigmOfWideDigit).mpr legible
  refine ⟨legible, isRead, ?_, (byBytes "12２").1⟩
  intro other otherLegible isOther
  exact injective other paradigmOfWideDigit otherLegible legible
    (isOther.trans (written _ _ isRead).2.symm)

end Inflection.Rules.Paradigm
