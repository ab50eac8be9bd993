import Inflection.Rules.Modifiers
import Inflection.Text.Offset
import Inflection.Text.Run
import Mathlib.Data.List.Induction
import Mathlib.Data.Nat.Digits.Defs

/-!
# Counts as integers

The text of a count starts with an integer of any size, or with none, which is
as good as zero.  The count that is kept is this integer, raised to zero if it
is negative and lowered to the largest count if it is beyond.  Lowering it makes
no difference to a word that has fewer characters than the largest count.

Characters are taken away from the end of a word by counting them off and
cutting the word at the byte where the last of them starts.  This byte is always
between two characters.
-/

namespace Inflection.Rules

open Inflection.Text

/-! ## Integers at the start of a text -/

/-- What stands in front of the digits of an integer. -/
inductive Sign where
  | unsigned
  | plus
  | minus
  deriving DecidableEq, Repr

namespace Sign

/-- How a sign is written. -/
def written : Sign → List Char
  | .unsigned => []
  | .plus => ['+']
  | .minus => ['-']

/-- The integer with a sign and an absolute value. -/
def integer : Sign → Nat → Int
  | .unsigned, value => value
  | .plus, value => value
  | .minus, value => -value

end Sign

/-- The number that decimal digits write, the last of them counting once, the
one before it ten times, and so on. -/
def digitsNumber (digits : List Char) : Nat :=
  Nat.ofDigits 10 (digits.reverse.map fun digit => digit.toNat - '0'.toNat)

/-- Tells that a text starts with an integer: blanks, at most one sign, and all
the digits that follow it, of which there is at least one. -/
def StartsWithInteger (chars : List Char) (number : Int) : Prop :=
  ∃ blanks sign digits rest,
    chars = blanks ++ (Sign.written sign ++ (digits ++ rest)) ∧
    (∀ char ∈ blanks, isBlank char = true) ∧
    digits ≠ [] ∧
    (∀ digit ∈ digits, digit.isDigit = true) ∧
    (∀ char ∈ rest.head?, char.isDigit = false) ∧
    number = sign.integer (digitsNumber digits)

/-- Tells the integer at the start of a text, which is zero if there is none. -/
def IntegerAtStart (chars : List Char) (number : Int) : Prop :=
  StartsWithInteger chars number ∨
    (∀ other, ¬ StartsWithInteger chars other) ∧ number = 0

theorem decimalValue_eq_digitsNumber (digits : List Char) :
    decimalValue digits = digitsNumber digits := by
  unfold decimalValue digitsNumber
  induction digits using List.reverseRecOn with
  | nil => rfl
  | append_singleton digits digit ih =>
    rw [List.foldl_append, ih, List.reverse_append, List.reverse_singleton,
      List.singleton_append, List.map_cons, Nat.ofDigits_cons, List.foldl_cons,
      List.foldl_nil, Nat.add_comm]

/-- Splits the sign off a text. -/
def splitSign : List Char → Sign × List Char
  | '-' :: rest => (.minus, rest)
  | '+' :: rest => (.plus, rest)
  | rest => (.unsigned, rest)

theorem written_splitSign (chars : List Char) :
    (splitSign chars).1.written ++ (splitSign chars).2 = chars := by
  unfold splitSign
  split <;> rfl

/-- A sign in front of a digit is split off. -/
theorem splitSign_written
    (sign : Sign)
    {digit : Char}
    (isDigit : digit.isDigit = true)
    (rest : List Char) :
    splitSign (sign.written ++ digit :: rest) = (sign, digit :: rest) := by
  cases sign with
  | plus => rfl
  | minus => rfl
  | unsigned =>
    have notMinus : digit ≠ '-' := by
      rintro rfl
      cases isDigit
    have notPlus : digit ≠ '+' := by
      rintro rfl
      cases isDigit
    show splitSign (digit :: rest) = _
    unfold splitSign
    split
    · rename_i starts
      exact absurd (List.cons.inj starts).1 notMinus
    · rename_i starts
      exact absurd (List.cons.inj starts).1 notPlus
    · rfl

/-- Neither a sign nor a digit is blank, so the blanks in front of an integer
are all that there are. -/
theorem isBlank_head_of_integer
    (sign : Sign)
    {digit : Char}
    (isDigit : digit.isDigit = true)
    (rest : List Char) :
    ∀ char ∈ (sign.written ++ digit :: rest).head?, isBlank char = false := by
  cases sign with
  | unsigned => simpa [Sign.written] using isBlank_eq_false_of_isDigit isDigit
  | plus => simpa [Sign.written] using (by decide : isBlank '+' = false)
  | minus => simpa [Sign.written] using (by decide : isBlank '-' = false)

/-- What follows the blanks at the start of a text, with its sign apart. -/
def signedPart (chars : List Char) : Sign × List Char :=
  splitSign (chars.dropWhile isBlank)

/-- The digits of the integer at the start of a text. -/
def integerDigits (chars : List Char) : List Char :=
  (signedPart chars).2.takeWhile Char.isDigit

/-- The integer that a text starts with is found by dropping the blanks and then
splitting off the sign. -/
theorem startsWithInteger_iff {chars : List Char} {number : Int} :
    StartsWithInteger chars number ↔
      integerDigits chars ≠ [] ∧
        number = (signedPart chars).1.integer
          (digitsNumber (integerDigits chars)) := by
  constructor
  · rintro ⟨blanks, sign, digits, rest, rfl, areBlank, someDigit, areDigits,
      stops, rfl⟩
    rcases List.exists_cons_of_ne_nil someDigit with ⟨digit, others, rfl⟩
    have isDigit : digit.isDigit = true := areDigits digit List.mem_cons_self
    have part :
        signedPart (blanks ++ (sign.written ++ (digit :: others ++ rest))) =
          (sign, digit :: others ++ rest) := by
      rw [signedPart, List.dropWhile_append_of_pos areBlank, List.cons_append,
        dropWhile_of_stops (isBlank_head_of_integer sign isDigit _),
        splitSign_written sign isDigit]
    have run := (isRun_iff.mp ⟨rfl, areDigits, stops⟩ :
      _ ∧ rest = (digit :: others ++ rest).dropWhile Char.isDigit).1
    rw [integerDigits, part, ← run]
    exact ⟨someDigit, rfl⟩
  · rintro ⟨someDigit, rfl⟩
    have run : IsRun Char.isDigit (signedPart chars).2 _ _ :=
      isRun_iff.mpr ⟨rfl, rfl⟩
    refine ⟨chars.takeWhile isBlank, (signedPart chars).1, integerDigits chars,
      _, ?_, List.all_eq_true.mp List.all_takeWhile, someDigit, run.alike,
      run.stops, rfl⟩
    rw [integerDigits, ← run.text, signedPart, written_splitSign,
      List.takeWhile_append_dropWhile]

/-- Every text has exactly one integer at its start, where none
counts as zero. -/
theorem integerAtStart_iff {chars : List Char} {number : Int} :
    IntegerAtStart chars number ↔
      number = (signedPart chars).1.integer
        (digitsNumber (integerDigits chars)) := by
  unfold IntegerAtStart
  simp only [startsWithInteger_iff]
  by_cases noDigit : integerDigits chars = []
  · have zero : (signedPart chars).1.integer (digitsNumber []) = 0 := by
      cases (signedPart chars).1 <;> rfl
    simp [noDigit, zero]
  · simp [noDigit]

theorem digitsCount_eq (chars : List Char) :
    digitsCount chars =
      min (digitsNumber (chars.takeWhile Char.isDigit)) largestCount := by
  rw [digitsCount, decimalValue_eq_digitsNumber]

/-- The count at the start of a text is the integer there, brought between zero
and the largest count. -/
theorem countAtStart_eq (text : String) :
    (countAtStart text : Int) =
      min (max 0 ((signedPart text.toList).1.integer
          (digitsNumber (integerDigits text.toList))))
        largestCount := by
  unfold countAtStart integerDigits signedPart
  generalize text.toList.dropWhile isBlank = chars
  split
  · rename_i rest
    show (0 : Int) =
        min (max 0 (-(digitsNumber (rest.takeWhile Char.isDigit) : Int))) _
    omega
  · rename_i rest
    show _ = min (max 0 (digitsNumber (rest.takeWhile Char.isDigit) : Int)) _
    rw [digitsCount_eq]
    omega
  · rename_i notMinus notPlus
    have unsigned : splitSign chars = (.unsigned, chars) := by
      unfold splitSign
      split
      · exact absurd rfl (notMinus _)
      · exact absurd rfl (notPlus _)
      · rfl
    rw [unsigned, digitsCount_eq]
    show _ = min (max 0 (digitsNumber (chars.takeWhile Char.isDigit) : Int)) _
    omega

/-! ## Taking characters away -/

/-- One less than a count, unless that would be less than zero. -/
def oneLess? : Nat → Option Nat
  | 0 => none
  | count + 1 => some count

/-- A word without its last characters, found by bytes: the characters are
counted off from the end, and the word is cut where the last of them
starts.  There is nothing if a count less than zero or a cut within a
character would be needed. -/
def cutLast? (count : Nat) (word : String) : Option String :=
  if count = 0 then some word
  else
    (oneLess? count).bind fun passed =>
      match (starts word).reverse[passed]? with
      | none => some ""
      | some start => (cutAt? word start.1).map Prod.fst

/-- Counted from the end, the character in front of some others starts behind
the bytes before it. -/
theorem getElem?_reverse_starts
    (before : List Char)
    (char : Char)
    (behind : List Char) :
    (starts (String.ofList (before ++ char :: behind))).reverse[
        behind.length]? =
      some ((String.ofList before).utf8ByteSize, char) := by
  rw [starts, String.toList_ofList, startsFrom_append, List.reverse_append,
    startsFrom, List.reverse_cons, List.append_assoc,
    List.getElem?_append_right (by simp)]
  simp

/-- Cutting by bytes never fails, and takes away the characters that were to
be taken away. -/
theorem cutLast?_eq (count : Nat) (word : String) :
    cutLast? count word =
      some (String.ofList (removeLast count word.toList)) := by
  obtain ⟨chars, rfl⟩ : ∃ chars, word = String.ofList chars :=
    ⟨word.toList, by simp⟩
  unfold cutLast? removeLast
  rw [String.toList_ofList]
  cases count with
  | zero => simp
  | succ passed =>
    rw [if_neg (Nat.succ_ne_zero passed), oneLess?, Option.bind_some]
    by_cases inside : passed < chars.length
    · let kept := chars.take (chars.length - (passed + 1))
      let cut := chars.drop (chars.length - (passed + 1))
      have split : chars = kept ++ cut := (List.take_append_drop _ chars).symm
      have length : cut.length = passed + 1 := by
        rw [List.length_drop]
        omega
      rcases List.exists_cons_of_length_eq_add_one length with
        ⟨char, behind, isCut⟩
      have behindLength : behind.length = passed := by
        simpa [isCut] using length
      have found :
          (starts (String.ofList chars)).reverse[passed]? =
            some ((String.ofList kept).utf8ByteSize, char) := by
        rw [split, isCut, ← behindLength]
        exact getElem?_reverse_starts kept char behind
      have isTwo :
          cutAt? (String.ofList chars) (String.ofList kept).utf8ByteSize =
            some (String.ofList kept, String.ofList cut) :=
        cutAt?_eq_some_iff.mpr ⟨by rw [← String.ofList_append, ← split], rfl⟩
      rw [found]
      show (cutAt? (String.ofList chars) (String.ofList kept).utf8ByteSize).map
          Prod.fst = _
      rw [isTwo, Option.map_some]
    · have beyond : (starts (String.ofList chars)).reverse[passed]? = none := by
        rw [List.getElem?_eq_none_iff]
        simpa [starts] using inside
      have nothing : chars.length - (passed + 1) = 0 := by omega
      rw [beyond, nothing]
      rfl

/-- The text of a count has one integer at its start.  The count that is kept is
this integer, brought between zero and the largest count.  Taking so many
characters away from a word takes away as many as the integer says, none if it
is negative, and all if there are not enough.  By bytes this never fails,
whatever the count and the word. -/
theorem removeLast_countAtStart (text : String) :
    ∃ number : Int,
      (∀ other, IntegerAtStart text.toList other ↔ other = number) ∧
      (countAtStart text : Int) = min (max 0 number) (2 ^ 64 - 1) ∧
      (∀ word : String, word.length < 2 ^ 64 →
        ∃ kept cut : String,
          word = kept ++ cut ∧
          (cut.length : Int) = min (word.length : Int) (max 0 number) ∧
          Modifiers.apply { removed := some (countAtStart text) } word = kept ∧
          cutLast? (countAtStart text) word = some kept) ∧
      ∀ count word, cutLast? count word =
        some (String.ofList (removeLast count word.toList)) := by
  have count := countAtStart_eq text
  refine ⟨_, fun other => integerAtStart_iff, count, ?_, cutLast?_eq⟩
  intro word short
  have isWord :=
    List.take_append_drop (word.toList.length - countAtStart text) word.toList
  refine ⟨String.ofList (removeLast (countAtStart text) word.toList),
    String.ofList (word.toList.drop (word.toList.length - countAtStart text)),
    ?_, ?_, ?_, ?_⟩
  · rw [← String.ofList_append, removeLast, isWord, String.ofList_toList]
  · rw [String.length_ofList, List.length_drop, String.length_toList]
    generalize (signedPart text.toList).1.integer _ = number at count ⊢
    simp only [largestCount] at count
    omega
  · simp [Modifiers.apply, Modifiers.body]
  · exact cutLast?_eq _ word

/-- An integer just beyond the largest count, behind a no-break space and with
zeros in front. -/
def textBeyondLargest : String :=
  "\u00A0+0018446744073709551616th"

theorem integerAtStart_textBeyondLargest :
    IntegerAtStart textBeyondLargest.toList (2 ^ 64) := by
  have blank : ∀ char ∈ ['\u00A0'], isBlank char = true :=
    List.all_eq_true.mp (by decide)
  have digits : ∀ char ∈ "0018446744073709551616".toList, char.isDigit = true :=
    List.all_eq_true.mp (by decide)
  have stops : ∀ char ∈ ['t', 'h'].head?, char.isDigit = false := by
    rintro char ⟨⟩
    decide
  exact .inl ⟨['\u00A0'], .plus, "0018446744073709551616".toList, ['t', 'h'],
    by decide, blank,
    by decide, digits, stops, by decide⟩

/-- The largest count stands for it, and takes away a whole word. -/
theorem removeLast_countAtStart_beyond_largest :
    "naître".length < 2 ^ 64 ∧
    countAtStart textBeyondLargest = 2 ^ 64 - 1 ∧
    cutLast? (countAtStart textBeyondLargest) "naître" = some "" := by
  have short : "naître".length < 2 ^ 64 := by decide
  rcases removeLast_countAtStart textBeyondLargest with
    ⟨number, unique, count, taken, -⟩
  obtain rfl : 2 ^ 64 = number := (unique _).mp integerAtStart_textBeyondLargest
  rcases taken "naître" short with ⟨kept, cut, isWord, length, -, isCut⟩
  refine ⟨short, by omega, ?_⟩
  have all : cut.length = "naître".length := by
    omega
  have nothing : kept.length = 0 := by
    have lengths := congrArg String.length isWord
    rw [String.length_append] at lengths
    omega
  rw [isCut, String.length_eq_zero_iff.mp nothing]

end Inflection.Rules
