import Inflection.Proofs.Searches
import Inflection.Rules.Modifiers

/-!
# Replacing, piece by piece

Some stretches in a text cut it into pieces: what is in front of the first
stretch, and then each stretch with the gap behind it, up to the next one.
Replacing keeps the gaps and puts the replacement in the place of each
stretch.  What is put there is never looked at: neither the stretches nor the
gaps depend on it.

So modifiers turn a verb into a form in a way that can be read off the
pieces.  The stretches are the successive matches in the verb without its
end, or the first of them.
-/

namespace Inflection

open Inflection.Pattern
open Inflection.Rules

/-- A stretch that is cut out of a text, and the gap behind it. -/
structure Piece where
  stretch : List Char
  gap : List Char

/-- A text that is cut at some stretches. -/
structure Cutting where
  front : List Char
  pieces : List Piece

namespace Cutting

/-- The text that is cut. -/
def text (cutting : Cutting) : List Char :=
  cutting.front ++ cutting.pieces.flatMap fun piece =>
    piece.stretch ++ piece.gap

/-- The text with a replacement in the place of each stretch. -/
def replaced (replacement : List Char) (cutting : Cutting) : List Char :=
  cutting.front ++ cutting.pieces.flatMap fun piece => replacement ++ piece.gap

/-- Where the stretches of some pieces lie, the first of which starts
at a number. -/
def spansFrom : Nat → List Piece → List Span
  | _, [] => []
  | start, piece :: pieces =>
    ⟨start, start + piece.stretch.length⟩ ::
      spansFrom (start + piece.stretch.length + piece.gap.length) pieces

/-- Where the stretches lie in the text. -/
def spans (cutting : Cutting) : List Span :=
  spansFrom cutting.front.length cutting.pieces

/-- What comes behind a first gap: the pieces, joined. -/
theorem text_cons (front : List Char) (piece : Piece) (pieces : List Piece) :
    (Cutting.mk front (piece :: pieces)).text =
      front ++ (piece.stretch ++ (Cutting.mk piece.gap pieces).text) := by
  simp [text]

theorem replaced_cons
    (replacement front : List Char)
    (piece : Piece)
    (pieces : List Piece) :
    (Cutting.mk front (piece :: pieces)).replaced replacement =
      front ++ (replacement ++
        (Cutting.mk piece.gap pieces).replaced replacement) := by
  simp [replaced]

/-- Splicing a replacement into the rest of a text, from some number on,
replaces the stretches that are left. -/
theorem splice_spansFrom
    (replacement : List Char)
    (position : Nat)
    (cutting : Cutting) :
    Pattern.splice replacement position cutting.text
        (spansFrom (position + cutting.front.length) cutting.pieces) =
      cutting.replaced replacement := by
  rcases cutting with ⟨front, pieces⟩
  induction pieces generalizing position front with
  | nil => simp [spansFrom, text, replaced, Pattern.splice]
  | cons piece pieces ih =>
    have before :
        (Cutting.mk front (piece :: pieces)).text.take
          (position + front.length - position) =
          front := by
      rw [Nat.add_sub_cancel_left, text_cons, List.take_left]
    have behind :
        (Cutting.mk front (piece :: pieces)).text.drop
            (position + front.length + piece.stretch.length - position) =
          (Cutting.mk piece.gap pieces).text := by
      rw [Nat.add_assoc, Nat.add_sub_cancel_left, text_cons,
        ← List.append_assoc, List.drop_left' (by simp)]
    simp only [spansFrom, Pattern.splice]
    rw [before, behind, ih, replaced_cons, List.append_assoc]

/-- Splicing a replacement in the place of the stretches replaces them and
keeps the gaps. -/
theorem splice_spans (replacement : List Char) (cutting : Cutting) :
    Pattern.splice replacement 0 cutting.text cutting.spans =
      cutting.replaced replacement := by
  have spliced := splice_spansFrom replacement 0 cutting
  rw [Nat.zero_add] at spliced
  exact spliced

end Cutting

/-! ## Stretches in order -/

/-- Stretches between two numbers, each behind the one before it. -/
inductive InOrder (last : Nat) : Nat → List Span → Prop where
  | nil (first : Nat) : InOrder last first []
  | cons
      {first : Nat}
      {span : Span}
      {spans : List Span}
      (between : span.Between first last)
      (rest : InOrder last span.stop spans) :
      InOrder last first (span :: spans)

/-- Stretches in order cut what is left of a text from some number on. -/
theorem exists_pieces
    {first : Nat}
    {rest : List Char}
    {spans : List Span}
    (inOrder : InOrder (first + rest.length) first spans) :
    ∃ cutting : Cutting,
      cutting.text = rest ∧
      Cutting.spansFrom (first + cutting.front.length) cutting.pieces =
        spans := by
  induction spans generalizing first rest with
  | nil => exact ⟨⟨rest, []⟩, by simp [Cutting.text], rfl⟩
  | cons span spans ih =>
    cases inOrder with
    | cons between inOrder =>
      rcases span with ⟨start, stop⟩
      have first_le : first ≤ start := between.first_le
      have start_le_stop : start ≤ stop := between.start_le_stop
      have stop_le : stop ≤ first + rest.length := between.stop_le
      have left :
          first + rest.length = stop + (rest.drop (stop - first)).length := by
        rw [List.length_drop]
        omega
      rw [left] at inOrder
      rcases ih inOrder with ⟨⟨gap, pieces⟩, isRest, areSpans⟩
      let front := rest.take (start - first)
      let stretch := (rest.take (stop - first)).drop (start - first)
      have joined : front ++ stretch = rest.take (stop - first) := by
        have shorter :
            front = (rest.take (stop - first)).take (start - first) := by
          rw [List.take_take, Nat.min_eq_left (by omega)]
        rw [shorter, List.take_append_drop]
      have frontLength : first + front.length = start := by
        rw [List.length_take]
        omega
      have stretchLength : start + stretch.length = stop := by
        rw [List.length_drop, List.length_take]
        omega
      refine ⟨⟨front, ⟨stretch, gap⟩ :: pieces⟩, ?_, ?_⟩
      · rw [Cutting.text_cons, isRest, ← List.append_assoc, joined,
          List.take_append_drop]
      · simp only [Cutting.spansFrom, frontLength, stretchLength, areSpans]

/-- Stretches in order cut a text. -/
theorem exists_cutting
    {text : List Char}
    {spans : List Span}
    (inOrder : InOrder text.length 0 spans) :
    ∃ cutting : Cutting, cutting.text = text ∧ cutting.spans = spans := by
  rw [← Nat.zero_add text.length] at inOrder
  rcases exists_pieces inOrder with ⟨cutting, isText, areSpans⟩
  rw [Nat.zero_add] at areSpans
  exact ⟨cutting, isText, areSpans⟩

section

variable
    {program : Program}
    {text : List Char}
    {spans : List Span}

/-- Successive matches are in order. -/
theorem inOrder_of_successive_behind
    {stop : Nat}
    (inside : stop ≤ text.length)
    (successive : Successive program text (some stop) spans) :
    InOrder text.length stop spans := by
  induction spans generalizing stop with
  | nil => exact .nil stop
  | cons span spans ih =>
    cases successive with
    | cons next rest =>
      have between := (next.between inside).1
      exact .cons between (ih between.stop_le rest)

theorem inOrder_of_successive
    (successive : Successive program text none spans) :
    InOrder text.length 0 spans := by
  cases successive with
  | nil nothing => exact .nil 0
  | cons next rest =>
    cases next with
    | first found =>
      have between := between_of_find?_within (Nat.zero_le _) found
      exact .cons between (inOrder_of_successive_behind between.stop_le rest)

theorem InOrder.take
    {first last : Nat}
    (inOrder : InOrder last first spans)
    (count : Nat) :
    InOrder last first (spans.take count) := by
  induction inOrder generalizing count with
  | nil first =>
    rw [List.take_nil]
    exact .nil first
  | cons between rest ih =>
    cases count with
    | zero => exact .nil _
    | succ count => exact .cons between (ih count)

end

/-! ## Modifiers -/

/-- The matches that a replacement replaces. -/
def Rules.MatchMode.chosen : MatchMode → List Span → List Span
  | .first, spans => spans.take 1
  | .all, spans => spans

/-- The first match in a text is the first of the successive ones. -/
theorem firstSpan?_eq_take (search : Pattern) (text : List Char) :
    (search.firstSpan? text).toList = (search.spans text).take 1 := by
  have successive := successive_spans search.program text
  unfold Pattern.firstSpan? Pattern.spans
  generalize search.program.spans text = spans at successive ⊢
  cases successive with
  | nil nothing =>
    cases nothing with
    | first found =>
      rw [← Place.within_zero, found]
      rfl
  | cons next rest =>
    cases next with
    | first found =>
      rw [← Place.within_zero, found]
      rfl

theorem Rules.Replacement.apply_eq_splice
    (replacement : Replacement)
    (word : List Char) :
    replacement.apply word =
      Pattern.splice replacement.text.toList 0 word
        (replacement.mode.chosen (replacement.search.spans word)) := by
  rcases replacement with ⟨mode, search, text⟩
  cases mode with
  | first =>
    simp only [Replacement.apply, Pattern.replaceFirst, firstSpan?_eq_take,
      MatchMode.chosen]
  | all => rfl

/-- A form of a verb, read off the pieces of the verb.  Characters are removed
from the end, and what is left is cut at the successive matches in it, or at the
first of them.  The form has the same gaps, with the replacement, as it is, in
the place of each stretch, and what is prepended and appended around it. -/
theorem apply_keeps_gaps (verb : String) (removed : Option Nat) :
    ∃ word cutOff : List Char,
      verb.toList = word ++ cutOff ∧
      cutOff.length = min (removed.getD 0) verb.length ∧
      (∀ prepend append : Option String,
        Modifiers.apply ⟨prepend, append, none, removed⟩ verb =
          prepend.getD "" ++ String.ofList word ++ append.getD "") ∧
      ∀ (mode : MatchMode) (search : Pattern),
        ∃ (found : List Span) (cutting : Cutting),
          (∀ spans, Successive search.program word none spans ↔ spans = found) ∧
          cutting.text = word ∧
          cutting.spans = mode.chosen found ∧
          ∀ (prepend append : Option String) (text : String),
            Modifiers.apply ⟨prepend, append, some ⟨mode, search, text⟩,
              removed⟩ verb =
              prepend.getD "" ++ String.ofList (cutting.replaced text.toList) ++
                append.getD "" := by
  let count := removed.getD 0
  let cutOff := verb.toList.drop (verb.toList.length - count)
  refine ⟨removeLast count verb.toList, cutOff,
    (List.take_append_drop _ _).symm, ?_, ?_, ?_⟩
  · rw [List.length_drop, ← String.length_toList]
    omega
  · intro prepend append
    rfl
  · intro mode search
    let found := search.spans (removeLast count verb.toList)
    have successive := inOrder_of_successive
      (successive_spans search.program (removeLast count verb.toList))
    have chosen :
        InOrder (removeLast count verb.toList).length 0
          (mode.chosen found) := by
      cases mode with
      | first => exact successive.take 1
      | all => exact successive
    rcases exists_cutting chosen with ⟨cutting, isWord, areSpans⟩
    refine ⟨found, cutting, fun spans => successive_iff, isWord, areSpans, ?_⟩
    intro prepend append text
    have replaced :
        Modifiers.body ⟨prepend, append, some ⟨mode, search, text⟩,
          removed⟩ verb.toList =
          cutting.replaced text.toList := by
      rw [← Cutting.splice_spans, isWord, areSpans]
      exact Replacement.apply_eq_splice ⟨mode, search, text⟩ _
    rw [Modifiers.apply, replaced]

end Inflection
