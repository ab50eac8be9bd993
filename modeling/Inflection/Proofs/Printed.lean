import Inflection.CommandLine.Run
import Inflection.Proofs.Tables

/-!
# What is printed

The texts of a run of the command, each described by itself and not by the
function that writes it: the list of what is declared, the blocks of verbs, and
what is told of a failure.

For each of these texts there is exactly one that fits its description, and it
is the one that is written.
-/

namespace Inflection.CommandLine

open Inflection.Rules Inflection.Report

/-! ## What is declared -/

/-- Words, with a space between each two of them. -/
inductive Spaced : List String → String → Prop where
  | none : Spaced [] ""
  | one (word : String) : Spaced [word] word
  | more
      {word next text : String}
      {words : List String}
      (rest : Spaced (next :: words) text) :
      Spaced (word :: next :: words) (word ++ " " ++ text)

/-- Tells what is printed in front of all verbs: if it is asked for, a line with
all forms of the book, and a line with the keys of all its paradigms. -/
inductive Preface (book : RuleBook) : Bool → String → Prop where
  | unasked : Preface book false ""
  | listed
      {forms keys : String}
      (formsSpaced : Spaced book.forms forms)
      (keysSpaced : Spaced
        (book.paradigms.map fun paradigm =>
          paradigm.person ++ paradigm.quantity) keys) :
      Preface book true
        ("forms: " ++ forms ++ "\n" ++ ("paradigms: " ++ keys ++ "\n"))

theorem spaced_iff {words : List String} {text : String} :
    Spaced words text ↔ text = " ".intercalate words := by
  constructor
  · intro spaced
    induction spaced with
    | none => rfl
    | one word => rw [String.intercalate_singleton]
    | more rest ih => rw [String.intercalate_cons_cons, ih]
  · rintro rfl
    induction words with
    | nil => exact .none
    | cons word words ih =>
      cases words with
      | nil =>
        rw [String.intercalate_singleton]
        exact .one word
      | cons next words =>
        rw [String.intercalate_cons_cons]
        exact .more ih

/-- Only the list of all that the book declares fits, if it is asked for. -/
theorem preface_iff {book : RuleBook} {list : Bool} {text : String} :
    Preface book list text ↔ text = if list then declared book else "" := by
  constructor
  · intro fits
    cases fits with
    | unasked => rfl
    | listed formsSpaced keysSpaced =>
      rw [spaced_iff.mp formsSpaced, spaced_iff.mp keysSpaced]
      rfl
  · rintro rfl
    cases list with
    | false => exact .unasked
    | true => exact .listed (spaced_iff.mpr rfl) (spaced_iff.mpr rfl)

/-! ## Blocks -/

/-- Tells what is printed for a verb: a note if no rule matches it, or else its
table, in which all keys are filled up to the length of the longest. -/
inductive Block (verb : String) : Option Conjugation → String → Prop where
  | noRule : Block verb none (verb ++ ": no rule matches" ++ "\n")
  | table
      {conjugation : Conjugation}
      {width : Nat}
      (widest : WidestKey conjugation width) :
      Block verb (some conjugation)
        (lines (verb :: conjugation.rows.map (Row.text width)))

/-- Tells what is printed for some verbs: their blocks, in order. -/
inductive Blocks : List String → List (Option Conjugation) → String → Prop where
  | none : Blocks [] [] ""
  | more
      {verb block text : String}
      {verbs : List String}
      {first : Option Conjugation}
      {others : List (Option Conjugation)}
      (isBlock : Block verb first block)
      (further : Blocks verbs others text) :
      Blocks (verb :: verbs) (first :: others) (block ++ text)

/-- The longest key has only one length. -/
theorem eq_of_widestKey
    {conjugation : Conjugation}
    {width width' : Nat}
    (widest : WidestKey conjugation width)
    (widest' : WidestKey conjugation width') :
    width = width' := by
  rcases widest with ⟨bound, ⟨key, value, isRow, rfl⟩ | ⟨noRow, rfl⟩⟩
  · rcases widest' with ⟨bound', ⟨key', value', isRow', rfl⟩ | ⟨noRow', -⟩⟩
    · exact Nat.le_antisymm (bound' key value isRow) (bound key' value' isRow')
    · exact absurd isRow (noRow' key value)
  · rcases widest' with ⟨-, ⟨key', value', isRow', -⟩ | ⟨-, isZero⟩⟩
    · exact absurd isRow' (noRow key' value')
    · exact isZero.symm

/-- Only the block that is written for a verb fits. -/
theorem block_iff
    {verb text : String}
    {found : Option Conjugation} :
    Block verb found text ↔ text = verbBlock verb found := by
  constructor
  · intro fits
    cases fits with
    | noRule => rfl
    | table widest =>
      rw [eq_of_widestKey widest (widestKey_keyWidth _)]
      exact (table_eq_lines verb _).symm
  · rintro rfl
    cases found with
    | none => exact .noRule
    | some conjugation =>
      have isTable := table_eq_lines verb conjugation
      rw [verbBlock, isTable]
      exact .table (widestKey_keyWidth conjugation)

/-- The blocks of some verbs, one behind the other. -/
def blocks (verbs : List String) (found : List (Option Conjugation)) : String :=
  String.join (List.zipWith verbBlock verbs found)

/-- Only the blocks that are written for some verbs fit. -/
theorem blocks_iff
    {verbs : List String}
    {found : List (Option Conjugation)}
    (together : verbs.length = found.length)
    {text : String} :
    Blocks verbs found text ↔ text = blocks verbs found := by
  constructor
  · intro fits
    clear together
    induction fits with
    | none => rfl
    | more isBlock further ih =>
      rw [blocks, List.zipWith_cons_cons, String.join_cons,
        block_iff.mp isBlock, ih]
      rfl
  · rintro rfl
    induction verbs generalizing found with
    | nil =>
      cases found with
      | nil => exact .none
      | cons first others => cases together
    | cons verb verbs ih =>
      cases found with
      | nil => cases together
      | cons first others =>
        rw [blocks, List.zipWith_cons_cons, String.join_cons]
        exact .more (block_iff.mpr rfl) (ih (Nat.succ.inj together))

/-! ## Failures -/

/-- Tells what is said about a failure: what is wrong, and behind it twice what
others say about it, if they say anything. -/
inductive Told (summary : String) : Option String → String → Prop where
  | alone : Told summary none summary
  | withCause (cause : String) :
      Told summary (some cause) (summary ++ ": " ++ cause ++ ": " ++ cause)

theorem exists_told (summary : String) (cause : Option String) :
    ∃ text, Told summary cause text := by
  cases cause with
  | none => exact ⟨_, .alone⟩
  | some cause => exact ⟨_, .withCause cause⟩

/-- What is told of a failure to load rules stands on a line behind the name of
the language. -/
theorem setupFailure_of_told
    {complaints : Complaints}
    {error : SetupError}
    {text : String}
    (told : Told error.summary (error.cause? complaints) text)
    (language : String) :
    setupFailure language complaints error =
      "Error: Could not load the rules for `" ++ language ++ "`: " ++ text := by
  have start :
      "Error: Could not load the rules for `" =
        "Error: " ++ "Could not load the rules for `" := by rfl
  have middle : "`: " = "`" ++ ": " := by rfl
  rw [start, middle, setupFailure, errorLine, SetupError.message]
  generalize error.cause? complaints = cause at told ⊢
  cases told with
  | alone =>
    simp only [withCause, toString, Option.toList, String.intercalate_cons_cons,
      String.intercalate_singleton, String.append_assoc]
  | withCause cause =>
    simp only [withCause, toString, Option.toList, String.intercalate_cons_cons,
      String.intercalate_singleton, String.append_assoc]

/-- What is told of broken rules stands on a line behind the name
of the verb. -/
theorem verbFailure_eq (verb : String) (broken : BrokenRules) :
    verbFailure verb broken =
      "Error: The rules for `" ++ verb ++ "` are broken: " ++
        broken.message := by
  have start :
      "Error: The rules for `" = "Error: " ++ "The rules for `" := by rfl
  have middle : "` are broken: " = "` are broken" ++ ": " := by rfl
  rw [start, middle]
  simp only [verbFailure, errorLine, toString, Option.toList,
    String.intercalate_cons_cons, String.intercalate_singleton,
    String.append_assoc]

end Inflection.CommandLine
