import Inflection.Proofs.Contents
import Inflection.Proofs.Lookups
import Inflection.Proofs.Readings
import Inflection.Report
import Inflection.Text.Run
import Mathlib.Data.List.DropRight
import Mathlib.Data.List.Induction

/-!
# Tables as printed

The table of a verb has a line for the verb, and beneath it a row for each form
and each of its values, in order.  All values are written behind the same number
of characters, so they start in one column unless a key breaks its line.

A table can be read back.  Rows of forms and rows of values are told apart by
their indents, since the name of a form never starts with a space.  Then the
keys are known, with them the width of the margin, and with that the values.  So
two tables that print alike are the same.
-/

namespace Inflection

open Inflection.Rules Inflection.Text Inflection.Report Inflection.Markup

/-! ## Rows -/

/-- A row of a table: the name of a form, or a value behind its key. -/
inductive Row where
  | form (name : String)
  | slot (key value : String)
  deriving DecidableEq, Repr

/-- What stands in front of a value. -/
def margin (width : Nat) (key : String) : String :=
  "    " ++ (key ++ String.ofList (List.replicate (width - key.length) ' ')) ++
    "  "

namespace Row

/-- What a row says, on a line of its own. -/
def text (width : Nat) : Row → String
  | .form name => "  " ++ name
  | .slot key value => margin width key ++ value

/-- The number of characters of the key in a row. -/
def keyLength? : Row → Option Nat
  | .form _ => none
  | .slot key _ => some key.length

end Row

/-- The rows of one form. -/
def FormTable.rows (table : FormTable) : List Row :=
  .form table.form :: table.slots.map fun slot => .slot slot.1 slot.2

/-- The rows beneath a verb. -/
def Conjugation.rows (conjugation : Conjugation) : List Row :=
  conjugation.forms.flatMap FormTable.rows

/-- Some texts, each ended by a line feed. -/
def lines (texts : List String) : String :=
  String.join (texts.map fun text => text ++ "\n")

@[simp]
theorem lines_append (first rest : List String) :
    lines (first ++ rest) = lines first ++ lines rest := by
  simp [lines]

@[simp]
theorem lines_cons (text : String) (rest : List String) :
    lines (text :: rest) = text ++ "\n" ++ lines rest := by
  simp [lines]

theorem formBlock_eq_lines (width : Nat) (table : FormTable) :
    formBlock width table = lines (table.rows.map (Row.text width)) := by
  have slots : slotLine width = fun slot =>
    line (Row.text width (.slot slot.1 slot.2)) := by
    funext slot
    rfl
  simp [formBlock, FormTable.rows, lines, line, slots, Row.text,
    Function.comp_def]

/-- A table has the line of its verb and then a line for each row, in order, and
nothing else. -/
theorem table_eq_lines (verb : String) (conjugation : Conjugation) :
    table verb conjugation =
      lines
        (verb :: conjugation.rows.map (Row.text (keyWidth conjugation))) := by
  rw [table, lines_cons, Conjugation.rows]
  congr 1
  generalize keyWidth conjugation = width
  induction conjugation.forms with
  | nil => rfl
  | cons first rest ih =>
    rw [List.map_cons, String.join_cons, ih, List.flatMap_cons, List.map_append,
      lines_append, formBlock_eq_lines]

/-! ## The column of the values -/

/-- Tells that the longest key has so many characters, or none if
there is no key. -/
def WidestKey (conjugation : Conjugation) (width : Nat) : Prop :=
  (∀ key value, .slot key value ∈ conjugation.rows → key.length ≤ width) ∧
  ((∃ key value, .slot key value ∈ conjugation.rows ∧ key.length = width) ∨
    (∀ key value, .slot key value ∉ conjugation.rows) ∧ width = 0)

/-- The column in which a text ends: the number of characters behind its
last line feed. -/
def column (text : String) : Nat :=
  (text.toList.reverse.takeWhile fun char => char ≠ '\n').length

/-- The largest of some numbers is found by going through them. -/
theorem foldl_max_spec (numbers : List Nat) :
    (∀ number ∈ numbers, number ≤ numbers.foldl max 0) ∧
      (numbers.foldl max 0 ∈ numbers ∨ numbers = []) := by
  induction numbers using List.reverseRecOn with
  | nil => simp
  | append_singleton numbers last ih =>
    rw [List.foldl_append, List.foldl_cons, List.foldl_nil]
    constructor
    · intro number isThere
      rcases List.mem_append.mp isThere with earlier | isLast
      · exact Nat.le_trans (ih.1 number earlier) (Nat.le_max_left _ _)
      · rw [List.mem_singleton.mp isLast]
        exact Nat.le_max_right _ _
    · left
      rcases Nat.le_total (numbers.foldl max 0) last with le | le
      · simp [Nat.max_eq_right le]
      · rw [Nat.max_eq_left le]
        rcases ih.2 with isThere | rfl
        · exact List.mem_append_left _ isThere
        · simpa [eq_comm] using le

/-- The width of a table is found on its rows. -/
theorem keyWidth_eq (conjugation : Conjugation) :
    keyWidth conjugation =
      (conjugation.rows.filterMap Row.keyLength?).foldl max 0 := by
  have keys : ∀ table : FormTable,
      table.rows.filterMap Row.keyLength? = table.slots.map fun slot =>
        slot.1.length := by
    intro table
    rw [FormTable.rows, List.filterMap_cons_none rfl, List.filterMap_map,
      ← List.filterMap_eq_map]
    rfl
  simp only [keyWidth, Conjugation.rows, List.filterMap_flatMap, keys]

theorem mem_keyLengths_iff {rows : List Row} {length : Nat} :
    length ∈ rows.filterMap Row.keyLength? ↔
      ∃ key value, .slot key value ∈ rows ∧ key.length = length := by
  rw [List.mem_filterMap]
  constructor
  · rintro ⟨_ | ⟨key, value⟩, isRow, isLength⟩
    · cases isLength
    · exact ⟨key, value, isRow, Option.some.inj isLength⟩
  · rintro ⟨key, value, isRow, rfl⟩
    exact ⟨_, isRow, rfl⟩

theorem widestKey_keyWidth (conjugation : Conjugation) :
    WidestKey conjugation (keyWidth conjugation) := by
  rw [keyWidth_eq]
  rcases foldl_max_spec (conjugation.rows.filterMap Row.keyLength?) with
    ⟨bound, reached⟩
  refine ⟨?_, ?_⟩
  · intro key value isRow
    exact bound _ (mem_keyLengths_iff.mpr ⟨key, value, isRow, rfl⟩)
  · rcases reached with isThere | nothing
    · exact .inl (mem_keyLengths_iff.mp isThere)
    · right
      rw [nothing]
      refine ⟨?_, rfl⟩
      intro key value isRow
      have isThere := mem_keyLengths_iff.mpr ⟨key, value, isRow, rfl⟩
      rw [nothing] at isThere
      cases isThere

theorem length_margin {width : Nat} {key : String} (fits : key.length ≤ width) :
    (margin width key).length = 4 + width + 2 := by
  have indent : "    ".length = 4 := rfl
  have gap : "  ".length = 2 := rfl
  simp only [margin, String.length_append, String.length_ofList,
    List.length_replicate, indent, gap]
  omega

theorem toList_margin (width : Nat) (key : String) :
    (margin width key).toList =
      [' ', ' ', ' ', ' '] ++
        (key.toList ++ List.replicate (width - key.length) ' ') ++
        [' ', ' '] := by
  simp [margin]

theorem not_mem_margin
    {width : Nat}
    {key : String}
    (unbroken : '\n' ∉ key.toList) :
    '\n' ∉ (margin width key).toList := by
  simp [toList_margin, unbroken]

/-- Behind a whole line, the column counts the characters that follow. -/
theorem column_of_line {above rest : String} (unbroken : '\n' ∉ rest.toList) :
    column (above ++ "\n" ++ rest) = rest.length := by
  have alike : ∀ char ∈ rest.toList.reverse, decide (char ≠ '\n') = true := by
    intro char isThere
    simp only [List.mem_reverse] at isThere
    simpa using fun isFeed : char = '\n' => unbroken (isFeed ▸ isThere)
  simp only [column, String.toList_append, List.reverse_append]
  rw [List.takeWhile_append_of_pos alike]
  simp [String.length_toList]

/-- The lines of some texts, of which there is at least one, end with
a line feed. -/
theorem exists_lines_cons (first : String) (rest : List String) :
    ∃ above, lines (first :: rest) = above ++ "\n" := by
  rcases List.eq_nil_or_concat (first :: rest) with
    nothing | ⟨init, last, isConcat⟩
  · cases nothing
  · refine ⟨lines init ++ last, ?_⟩
    rw [isConcat, List.concat_eq_append, lines_append, lines_cons]
    simp [lines, String.append_assoc]

/-- Where a value stands in the table: behind the lines of the rows before it
and a margin. -/
theorem table_eq_of_row
    (verb : String)
    {conjugation : Conjugation}
    {before after : List Row}
    {key value : String}
    (isRow : conjugation.rows = before ++ .slot key value :: after) :
    table verb conjugation =
      lines (verb :: before.map (Row.text (keyWidth conjugation))) ++
        margin (keyWidth conjugation) key ++ value ++ "\n" ++
        lines (after.map (Row.text (keyWidth conjugation))) := by
  rw [table_eq_lines, isRow, List.map_append, List.map_cons]
  simp only [lines_cons, lines_append, Row.text, String.append_assoc]

/-- The margin of a key is its indent and the key, and then spaces up to the
column of the values. -/
theorem margin_eq_padded (width : Nat) (key : String) :
    margin width key =
      "    " ++ key ++ String.ofList
        (List.replicate (width - key.length + 2) ' ') := by
  rw [← String.toList_inj, toList_margin]
  simp [List.replicate_succ']

/-- Every value stands behind as many characters as the widest key and six more,
and in that column if its key is in one piece. -/
theorem exists_margin_of_row
    (verb : String)
    {conjugation : Conjugation}
    {before after : List Row}
    {key value : String}
    (isRow : conjugation.rows = before ++ .slot key value :: after) :
    ∃ above gap below,
      table verb conjugation =
        above ++ ("    " ++ key ++ String.ofList (List.replicate gap ' ')) ++
          value ++ "\n" ++ below ∧
      above = lines (verb :: before.map (Row.text (keyWidth conjugation))) ∧
      4 + key.length + gap = 4 + keyWidth conjugation + 2 ∧
      ('\n' ∉ key.toList →
        column (above ++
            ("    " ++ key ++ String.ofList (List.replicate gap ' '))) =
          4 + keyWidth conjugation + 2) := by
  have fits : key.length ≤ keyWidth conjugation :=
    (widestKey_keyWidth conjugation).1 key value (by simp [isRow])
  rcases exists_lines_cons verb
      (before.map (Row.text (keyWidth conjugation))) with
    ⟨above, isAbove⟩
  refine ⟨above ++ "\n", keyWidth conjugation - key.length + 2,
    lines (after.map (Row.text (keyWidth conjugation))), ?_, isAbove.symm,
    by omega, ?_⟩
  · rw [← margin_eq_padded, ← isAbove, table_eq_of_row verb isRow]
  · intro unbroken
    rw [← margin_eq_padded, column_of_line (not_mem_margin unbroken),
      length_margin fits]

/-! ## Reading a table back -/

/-- Tells that a name does not start with a space. -/
def StartsInk (name : String) : Prop :=
  ∀ char ∈ name.toList.head?, char ≠ ' '

/-- Tells that a row can be told from its line. -/
def Row.Readable : Row → Prop
  | .form name => '\n' ∉ name.toList ∧ StartsInk name
  | .slot key value =>
    '\n' ∉ key.toList ∧ ' ' ∉ key.toList ∧ '\n' ∉ value.toList

/-- Tells whether a line is that of a value. -/
def isSlotLine (line : List Char) : Bool :=
  [' ', ' ', ' ', ' '].isPrefixOf line

/-- The key at the start of the line of a value. -/
def keyOfLine (line : List Char) : List Char :=
  (line.drop 4).takeWhile fun char => char ≠ ' '

/-- The number of characters of the key in a line. -/
def keyLengthOfLine? (line : List Char) : Option Nat :=
  if isSlotLine line then some (keyOfLine line).length else none

/-- The row that a line writes, if the longest key is known. -/
def rowOfLine (width : Nat) (line : List Char) : Row :=
  if isSlotLine line then
    .slot (String.ofList (keyOfLine line))
      (String.ofList (line.drop (4 + width + 2)))
  else
    .form (String.ofList (line.drop 2))

/-- Gathers rows to tables: the values at the start, which belong to no form
yet, and the tables behind. -/
def gather : List Row → List (String × String) × List FormTable
  | [] => ([], [])
  | .form name :: rest => ([], ⟨name, (gather rest).1⟩ :: (gather rest).2)
  | .slot key value :: rest =>
    ((key, value) :: (gather rest).1, (gather rest).2)

/-- Reads the lines of a table. -/
def readLines : List (List Char) → String × Conjugation
  | [] => ("", ⟨[]⟩)
  | verb :: body =>
    let width := (body.filterMap keyLengthOfLine?).foldl max 0
    (String.ofList verb, ⟨(gather (body.map (rowOfLine width))).2⟩)

/-- The lines of a text, each of which ends with a line feed. -/
def splitLines (chars : List Char) : List (List Char) :=
  (chars.splitOn '\n').dropLast

/-- Values at the start are gathered until a form comes. -/
theorem gather_slots (slots : List (String × String)) (rest : List Row) :
    gather (slots.map (fun slot => .slot slot.1 slot.2) ++ rest) =
      (slots ++ (gather rest).1, (gather rest).2) := by
  induction slots with
  | nil => rfl
  | cons slot slots ih =>
    rw [List.map_cons, List.cons_append, gather, ih, List.cons_append]

theorem gather_rows (forms : List FormTable) :
    gather (forms.flatMap FormTable.rows) = ([], forms) := by
  induction forms with
  | nil => rfl
  | cons table forms ih =>
    rw [List.flatMap_cons, FormTable.rows, List.cons_append, gather,
      gather_slots, ih, List.append_nil]

theorem splitLines_line
    {line : List Char}
    (unbroken : '\n' ∉ line)
    (rest : List Char) :
    splitLines (line ++ '\n' :: rest) = line :: splitLines rest := by
  rw [splitLines, List.splitOn_append_cons_self_of_not_mem unbroken,
    List.dropLast_cons_of_ne_nil (List.splitOn_ne_nil _ _), splitLines]

theorem splitLines_lines
    {texts : List String}
    (unbroken : ∀ text ∈ texts, '\n' ∉ text.toList) :
    splitLines (lines texts).toList = texts.map String.toList := by
  induction texts with
  | nil => rfl
  | cons text texts ih =>
    rw [List.forall_mem_cons] at unbroken
    have chars :
        (lines (text :: texts)).toList =
          text.toList ++ '\n' :: (lines texts).toList := by
      simp
    rw [chars, splitLines_line unbroken.1, ih unbroken.2, List.map_cons]

section

variable {width : Nat} {name key value : String}

theorem isSlotLine_form (startsInk : StartsInk name) :
    isSlotLine (Row.text width (.form name)).toList = false := by
  have chars :
      (Row.text width (.form name)).toList = ' ' :: ' ' :: name.toList := by
    simp [Row.text]
  rw [chars, isSlotLine]
  unfold StartsInk at startsInk
  cases isName : name.toList with
  | nil => rfl
  | cons char rest =>
    have isInk : char ≠ ' ' := startsInk char (by rw [isName]; rfl)
    simp [List.isPrefixOf, isInk.symm]

theorem toList_slot :
    (Row.text width (.slot key value)).toList =
      [' ', ' ', ' ', ' '] ++
        (key.toList ++ (List.replicate
            (width - key.length) ' ' ++ ' ' :: ' ' :: value.toList)) := by
  simp [Row.text, toList_margin]

theorem isSlotLine_slot :
    isSlotLine (Row.text width (.slot key value)).toList = true := by
  rw [toList_slot]
  rfl

theorem keyOfLine_slot (unspaced : ' ' ∉ key.toList) :
    keyOfLine (Row.text width (.slot key value)).toList = key.toList := by
  have run : IsRun (fun char => char ≠ ' ')
      (key.toList ++
        (List.replicate (width - key.length) ' ' ++ ' ' :: ' ' :: value.toList))
      key.toList (List.replicate (width - key.length) ' ' ++ ' ' :: ' ' ::
        value.toList) := by
    refine ⟨rfl, ?_, ?_⟩
    · intro char isThere
      simpa using fun isSpace : char = ' ' => unspaced (isSpace ▸ isThere)
    · cases width - key.length <;> simp [List.replicate_succ]
  rw [keyOfLine, toList_slot]
  exact (isRun_iff.mp run).1.symm

theorem drop_slot (fits : key.length ≤ width) :
    (Row.text width (.slot key value)).toList.drop (4 + width + 2) =
      value.toList := by
  have length : (margin width key).toList.length = 4 + width + 2 := by
    rw [String.length_toList, length_margin fits]
  rw [Row.text, String.toList_append, ← length, List.drop_left]

end

/-- The length of the key in a row is read off its line. -/
theorem keyLengthOfLine?_text
    {row : Row}
    (readable : row.Readable)
    (width : Nat) :
    keyLengthOfLine? (row.text width).toList = row.keyLength? := by
  unfold keyLengthOfLine?
  cases row with
  | form name =>
    rw [isSlotLine_form readable.2]
    rfl
  | slot key value =>
    rw [isSlotLine_slot, keyOfLine_slot readable.2.1, String.length_toList]
    rfl

/-- A row is read off its line, if its key is not longer than the longest. -/
theorem rowOfLine_text
    {row : Row}
    (readable : row.Readable)
    {width : Nat}
    (fits : ∀ length, row.keyLength? = some length → length ≤ width) :
    rowOfLine width (row.text width).toList = row := by
  unfold rowOfLine
  cases row with
  | form name =>
    rw [isSlotLine_form readable.2, if_neg Bool.false_ne_true]
    simp [Row.text]
  | slot key value =>
    rw [isSlotLine_slot, if_pos rfl, keyOfLine_slot readable.2.1,
      drop_slot (fits _ rfl), String.ofList_toList, String.ofList_toList]

theorem not_mem_text {row : Row} (readable : row.Readable) (width : Nat) :
    '\n' ∉ (row.text width).toList := by
  cases row with
  | form name => simpa [Row.text] using readable.1
  | slot key value =>
    rw [Row.text, String.toList_append, List.mem_append, not_or]
    exact ⟨not_mem_margin readable.1, readable.2.2⟩

section

variable {verb : String} {conjugation : Conjugation}

theorem splitLines_table
    (unbroken : '\n' ∉ verb.toList)
    (readable : ∀ row ∈ conjugation.rows, row.Readable) :
    splitLines (table verb conjugation).toList =
      verb.toList ::
        conjugation.rows.map fun row =>
          (row.text (keyWidth conjugation)).toList := by
  rw [table_eq_lines, splitLines_lines, List.map_cons, List.map_map]
  · rfl
  · rw [List.forall_mem_cons]
    refine ⟨unbroken, ?_⟩
    intro text isText
    rcases List.mem_map.mp isText with ⟨row, isRow, rfl⟩
    exact not_mem_text (readable row isRow) _

/-- The longest key of a table is found on its lines, whatever the width of
their margins. -/
theorem widest_keyLengthOfLine?
    (readable : ∀ row ∈ conjugation.rows, row.Readable)
    (width : Nat) :
    ((conjugation.rows.map fun row => (row.text width).toList).filterMap
      keyLengthOfLine?).foldl max 0 = keyWidth conjugation := by
  rw [List.filterMap_map, keyWidth_eq]
  congr 1
  apply List.filterMap_congr
  intro row isRow
  exact keyLengthOfLine?_text (readable row isRow) width

theorem map_rowOfLine (readable : ∀ row ∈ conjugation.rows, row.Readable) :
    (conjugation.rows.map fun row =>
      (row.text (keyWidth conjugation)).toList).map
      (rowOfLine (keyWidth conjugation)) = conjugation.rows := by
  rw [List.map_map]
  calc
    conjugation.rows.map
          (rowOfLine (keyWidth conjugation) ∘
            fun row => (row.text (keyWidth conjugation)).toList) =
        conjugation.rows.map id := by
      apply List.map_congr_left
      intro row isRow
      apply rowOfLine_text (readable row isRow)
      intro length isLength
      cases row with
      | form name => cases isLength
      | slot key value =>
        cases isLength
        exact (widestKey_keyWidth conjugation).1 key value isRow
    _ = conjugation.rows := List.map_id _

/-- What was printed is read back: first the keys, from them the width, and
then the values. -/
theorem readLines_table
    (unbroken : '\n' ∉ verb.toList)
    (readable : ∀ row ∈ conjugation.rows, row.Readable) :
    readLines (splitLines (table verb conjugation).toList) =
      (verb, conjugation) := by
  rw [splitLines_table unbroken readable, readLines,
    widest_keyLengthOfLine? readable, map_rowOfLine readable, Conjugation.rows,
    gather_rows, String.ofList_toList]

end

/-! ## Names of forms -/

/-- Tells that a name is not empty and has no blanks around it. -/
def IsTrimmed (name : String) : Prop :=
  name ≠ "" ∧ trim name.toList = name.toList

theorem trim_trim (chars : List Char) : trim (trim chars) = trim chars := by
  have start : (trim chars).dropWhile isBlank = trim chars := by
    apply dropWhile_of_stops
    intro char isHead
    have stopped := List.head?_dropWhile_not isBlank chars
    have isPrefix : trim chars <+: chars.dropWhile isBlank := by
      rw [trim, ← List.reverse_suffix, List.reverse_reverse]
      exact List.dropWhile_suffix _
    rcases isPrefix with ⟨rest, isWhole⟩
    have sameHead : (chars.dropWhile isBlank).head? = some char := by
      rw [← isWhole, List.head?_append, Option.mem_def.mp isHead,
        Option.some_or]
    rw [sameHead] at stopped
    simpa using stopped
  rw [trim, start]
  unfold trim
  rw [List.reverse_reverse, List.dropWhile_idempotent]

theorem isTrimmed_of_readFormName
    {element : Element}
    {name : String}
    (isRead : readFormName element = .ok name) :
    IsTrimmed name := by
  unfold readFormName at isRead
  simp only at isRead
  split at isRead
  · cases isRead
  · rename_i someInk
    cases isRead
    refine ⟨?_, ?_⟩
    · simpa using someInk
    · rw [String.toList_ofList, trim_trim]

/-- The reader declares no other names of forms. -/
theorem isTrimmed_of_mem_forms
    {root : Element}
    {book : RuleBook}
    (isRead : RuleBook.ofElement root = .ok book)
    {form : String}
    (declared : form ∈ book.forms) :
    IsTrimmed form := by
  rcases ofElement_eq_ok_iff.mp isRead with ⟨-, forms, -⟩
  have each : ∀ element name, readFormName element = .ok name →
      (True ↔ IsTrimmed name) :=
    fun element name isName =>
      iff_of_true trivial (isTrimmed_of_readFormName isName)
  have allTrimmed := forall_mem_iff_of_forall₂ each (mapM_eq_ok_iff.mp forms)
  exact allTrimmed.mp (fun _ _ => trivial) form declared

/-- A trimmed name does not start with a space, since trimming would
make it shorter. -/
theorem startsInk_of_isTrimmed
    {name : String}
    (trimmed : IsTrimmed name) :
    StartsInk name := by
  intro char isHead isSpace
  rcases List.head?_eq_some_iff.mp (Option.mem_def.mp isHead) with
    ⟨rest, isName⟩
  have blank : isBlank char = true := by
    rw [isSpace]
    decide
  have shorter : (trim name.toList).length ≤ rest.length := by
    rw [isName, trim, List.dropWhile_cons_of_pos blank, List.length_reverse]
    refine Nat.le_trans (List.dropWhile_suffix _).length_le ?_
    rw [List.length_reverse]
    exact (List.dropWhile_suffix _).length_le
  rw [trimmed.2, isName, List.length_cons] at shorter
  omega

/-! ## Conjugations from documents -/

/-- Tells that a conjugation is what some verb has by some document, under
some filter. -/
def Produced (conjugation : Conjugation) : Prop :=
  ∃ root book language filter inflector verb,
    RuleBook.ofElement root = .ok book ∧
    Inflector.ofBook language book filter = .ok inflector ∧
    inflector.conjugate verb = .ok (some conjugation)

theorem Produced.isTrimmed
    {conjugation : Conjugation}
    (produced : Produced conjugation)
    {sheet : FormTable}
    (listed : sheet ∈ conjugation.forms) :
    IsTrimmed sheet.form := by
  rcases produced with ⟨root, book, language, filter, inflector, verb, isRead,
    made, conjugated⟩
  rw [Inflector.forms_of_conjugate conjugated] at listed
  rcases List.mem_map.mp listed with ⟨form, selected, rfl⟩
  rw [inflector.selection_eq_admitted,
    (Inflector.parts_of_ofBook made).2.1] at selected
  exact isTrimmed_of_mem_forms isRead (List.mem_of_mem_filter selected)

/-- Tells that a verb and its conjugation are printed without breaks in
lines and keys. -/
structure Plain (verb : String) (conjugation : Conjugation) : Prop where
  verb : '\n' ∉ verb.toList
  forms : ∀ sheet ∈ conjugation.forms, '\n' ∉ sheet.form.toList
  keys : ∀ sheet ∈ conjugation.forms, ∀ slot ∈ sheet.slots,
    '\n' ∉ slot.1.toList ∧ ' ' ∉ slot.1.toList
  values :
    ∀ sheet ∈ conjugation.forms, ∀ slot ∈ sheet.slots, '\n' ∉ slot.2.toList

theorem readable_of_plain
    {verb : String}
    {conjugation : Conjugation}
    (produced : Produced conjugation)
    (plain : Plain verb conjugation) :
    ∀ row ∈ conjugation.rows, row.Readable := by
  intro row isRow
  rcases List.mem_flatMap.mp isRow with ⟨sheet, listed, isRow⟩
  rcases List.mem_cons.mp isRow with rfl | isSlot
  · exact ⟨plain.forms sheet listed,
      startsInk_of_isTrimmed (produced.isTrimmed listed)⟩
  · rcases List.mem_map.mp isSlot with ⟨slot, isThere, rfl⟩
    have key := plain.keys sheet listed slot isThere
    exact ⟨key.1, key.2, plain.values sheet listed slot isThere⟩

/-- A table has a line for its verb and one for each row, in order.  Every value
is written behind as many characters as the widest key and six more, and starts
in that column if its key is in one piece.  Tables of produced conjugations that
print alike, without breaks in lines and spaces in keys, are of one verb and one
conjugation. -/
theorem table_aligned_and_told_apart
    {conjugation : Conjugation}
    (produced : Produced conjugation)
    (verb : String) :
    WidestKey conjugation (keyWidth conjugation) ∧
    table verb conjugation =
      lines (verb :: conjugation.rows.map (Row.text (keyWidth conjugation))) ∧
    (∀ before key value after,
      conjugation.rows = before ++ .slot key value :: after →
      ∃ above gap below,
        table verb conjugation =
          above ++ ("    " ++ key ++ String.ofList (List.replicate gap ' ')) ++
            value ++ "\n" ++ below ∧
        above = lines (verb :: before.map (Row.text (keyWidth conjugation))) ∧
        4 + key.length + gap = 4 + keyWidth conjugation + 2 ∧
        ('\n' ∉ key.toList →
          column (above ++
              ("    " ++ key ++ String.ofList (List.replicate gap ' '))) =
            4 + keyWidth conjugation + 2)) ∧
    (∀ sheet ∈ conjugation.forms, IsTrimmed sheet.form) ∧
    ∀ (verb' : String) (conjugation' : Conjugation),
      Produced conjugation' →
      Plain verb conjugation →
      Plain verb' conjugation' →
      table verb conjugation = table verb' conjugation' →
      verb = verb' ∧ conjugation = conjugation' := by
  refine ⟨widestKey_keyWidth conjugation, table_eq_lines verb conjugation,
    fun before key value after => exists_margin_of_row verb,
    fun sheet listed => produced.isTrimmed listed, ?_⟩
  intro verb' conjugation' produced' plain plain' alike
  have isRead := readLines_table plain.verb (readable_of_plain produced plain)
  rw [alike, readLines_table plain'.verb
    (readable_of_plain produced' plain')] at isRead
  exact ⟨(congrArg Prod.fst isRead).symm, (congrArg Prod.snd isRead).symm⟩

/-! ## Two documents -/

/-- The conjugation by all rules of a document is produced. -/
theorem produced_of_ancestry
    {root : Element}
    {book : RuleBook}
    {verb : String}
    {ancestry : Ancestry}
    (isRead : RuleBook.ofElement root = .ok book)
    (found : ancestryOf book verb = .ok (some ancestry)) :
    Produced (ancestry.conjugate verb (({} : Filter).admitted book)) := by
  rcases Inflector.exists_ofBook "fr" (Filter.resolve_unrestricted book) with
    ⟨inflector, made⟩
  refine ⟨root, book, "fr", {}, inflector, verb, isRead, made, ?_⟩
  rcases Inflector.parts_of_ofBook made with ⟨-, isBook, isFilter⟩
  rw [Inflector.conjugate, RuleBook.conjugate, inflector.selection_eq_admitted,
    isBook, isFilter, found]
  rfl

/-- A document with keys of different lengths, a value that starts with a space,
and a form without values. -/
def documentOfUnevenKeys : Element :=
  plainElement "verbs" [] [
    plainElement "meta" [] [
      plainElement "forms" [] [
        ⟨⟨none, "form", []⟩, [.text "\n prs "]⟩,
        ⟨⟨none, "form", []⟩, [.text "imp"]⟩],
      plainElement "paradigms" [] [
        plainElement "paradigm" [("person", "1"), ("quant", "sg")] [],
        plainElement "paradigm" [("person", "12"), ("quant", "pl")] []]],
    plainElement "verb" [("word", "être")] [
      plainElement "group" [("id", "prs")] [
        plainElement "pdgmgroup" [("id", "1")]
          [⟨⟨none, "prepend", []⟩, [.text " "]⟩]],
      plainElement "group" [("id", "imp")] [
        plainElement "pdgmgroup" [("id", "1"), ("ignore", "")] [],
        plainElement "pdgmgroup" [("id", "12"), ("ignore", "")] []]]]

/-- The verb of this document. -/
def verbOfUnevenKeys : Entry .verb where
  name := "être"
  inherit := none
  forms :=
    .put FormRules.merge
      (.put FormRules.merge .empty "prs"
        ⟨.unset,
          .put PersonRules.merge .empty "1"
            ⟨false, { prepend := some " " }, .empty⟩⟩)
      "imp"
      ⟨.unset,
        .put PersonRules.merge
          (.put PersonRules.merge .empty "1" ⟨true, .unset, .empty⟩)
          "12" ⟨true, .unset, .empty⟩⟩

/-- The book of this document. -/
def bookOfUnevenKeys : RuleBook where
  forms := ["prs", "imp"]
  paradigms := [⟨"1", "sg"⟩, ⟨"12", "pl"⟩]
  verbs := [verbOfUnevenKeys]
  verbSets := []
  verbs_distinct := List.pairwise_singleton ..
  verbSets_distinct := List.nodup_nil

/-- The conjugation of the verb. -/
def conjugationOfUnevenKeys : Conjugation :=
  ⟨[⟨"prs", [("1sg", " être"), ("12pl", "être")]⟩, ⟨"imp", []⟩]⟩

theorem produced_conjugationOfUnevenKeys :
    Produced conjugationOfUnevenKeys := by
  have isRead :
      RuleBook.ofElement documentOfUnevenKeys = .ok bookOfUnevenKeys := by
    rfl
  have found :
      ancestryOf bookOfUnevenKeys "être" =
        .ok (some ⟨verbOfUnevenKeys, []⟩) := by
    cbv
  exact produced_of_ancestry isRead found

theorem plain_conjugationOfUnevenKeys :
    Plain "être" conjugationOfUnevenKeys := by
  constructor <;> decide

/-- Its first value starts behind a space of its own, in the column of all
values, and no other verb or conjugation is printed so. -/
theorem table_aligned_and_told_apart_uneven :
    table "être" conjugationOfUnevenKeys =
      "être\n  prs\n    1sg    être\n    12pl  être\n  imp\n" ∧
    column "être\n  prs\n    1sg   " = 10 ∧
    ∀ (verb : String) (conjugation : Conjugation),
      Produced conjugation →
      Plain verb conjugation →
      table "être" conjugationOfUnevenKeys = table verb conjugation →
      "être" = verb ∧ conjugationOfUnevenKeys = conjugation := by
  rcases table_aligned_and_told_apart produced_conjugationOfUnevenKeys
      "être" with
    ⟨-, isText, -, -, toldApart⟩
  refine ⟨isText.trans (by decide), ?_, ?_⟩
  · decide
  · intro verb conjugation produced plain alike
    exact toldApart verb conjugation produced plain_conjugationOfUnevenKeys
      plain alike

/-- A document with a line feed in a key. -/
def documentOfBrokenKey : Element :=
  plainElement "verbs" [] [
    plainElement "meta" [] [
      plainElement "forms" [] [⟨⟨none, "form", []⟩, [.text "prs"]⟩],
      plainElement "paradigms" [] [
        plainElement "paradigm" [("person", "1\n"), ("quant", "sg")] [],
        plainElement "paradigm" [("person", "2"), ("quant", "sg")] []]],
    plainElement "verb" [("word", "aim")] []]

/-- The verb of this document, which follows no rules. -/
def verbOfBrokenKey : Entry .verb where
  name := "aim"
  inherit := none
  forms := .empty

/-- The book of this document. -/
def bookOfBrokenKey : RuleBook where
  forms := ["prs"]
  paradigms := [⟨"1\n", "sg"⟩, ⟨"2", "sg"⟩]
  verbs := [verbOfBrokenKey]
  verbSets := []
  verbs_distinct := List.pairwise_singleton ..
  verbSets_distinct := List.nodup_nil

/-- The conjugation of its verb. -/
def conjugationOfBrokenKey : Conjugation :=
  ⟨[⟨"prs", [("1\nsg", "aim"), ("2sg", "aim")]⟩]⟩

theorem produced_conjugationOfBrokenKey : Produced conjugationOfBrokenKey := by
  have isRead :
      RuleBook.ofElement documentOfBrokenKey = .ok bookOfBrokenKey := by
    rfl
  have found :
      ancestryOf bookOfBrokenKey "aim" = .ok (some ⟨verbOfBrokenKey, []⟩) := by
    cbv
  exact produced_of_ancestry isRead found

/-- Behind a key with a line feed, a value starts in another column than behind
the other key. -/
theorem broken_key_leaves_column :
    Produced conjugationOfBrokenKey ∧
    WidestKey conjugationOfBrokenKey 4 ∧
    table "aim" conjugationOfBrokenKey =
      "aim\n  prs\n    1\nsg  " ++ "aim" ++ "\n    2sg   " ++ "aim" ++ "\n" ∧
    column "aim\n  prs\n    1\nsg  " = 4 ∧
    column ("aim\n  prs\n    1\nsg  " ++ "aim" ++ "\n    2sg   ") =
      4 + 4 + 2 := by
  refine ⟨produced_conjugationOfBrokenKey, widestKey_keyWidth _, ?_, ?_, ?_⟩
  all_goals decide

end Inflection
