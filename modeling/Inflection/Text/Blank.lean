import Inflection.Text.CharSet

/-!
# Blank characters

A character is blank when Unicode gives it the property `White_Space`.  This is
a larger class than the one of `Char.isWhitespace`: it also holds the no-break
space, the line and paragraph separators and the spaces of typesetting.  Names
in a rule file are trimmed by this class.
-/

namespace Inflection.Text

/-- The code points with the Unicode property `White_Space`. -/
def blanks : CharSet :=
  ⟨[⟨9, 13⟩, ⟨0x20, 0x20⟩, ⟨0x85, 0x85⟩, ⟨0xA0, 0xA0⟩, ⟨0x1680, 0x1680⟩,
    ⟨0x2000, 0x200A⟩, ⟨0x2028, 0x2029⟩, ⟨0x202F, 0x202F⟩, ⟨0x205F, 0x205F⟩,
    ⟨0x3000, 0x3000⟩]⟩

/-- Tells whether a character is blank. -/
def isBlank (char : Char) : Bool :=
  blanks.contains char

/-- Drops the blank characters at both ends. -/
def trim (chars : List Char) : List Char :=
  ((chars.dropWhile isBlank).reverse.dropWhile isBlank).reverse

/-- An ASCII digit is not blank. -/
theorem isBlank_eq_false_of_isDigit
    {char : Char}
    (digit : char.isDigit = true) :
    isBlank char = false := by
  have bounds : 48 ≤ char.toNat ∧ char.toNat ≤ 57 := by
    simp only [Char.isDigit, Bool.and_eq_true, decide_eq_true_eq] at digit
    exact ⟨digit.1, digit.2⟩
  have notBelow : ¬ char.toNat < 9 := by omega
  have notControl : ¬ char.toNat ≤ 13 := by omega
  have notSpace : ¬ char.toNat < 32 ∧ ¬ char.toNat ≤ 32 := by omega
  have beforeNext : char.toNat < 0x85 := by omega
  simp [isBlank, blanks, CharSet.contains, CharSet.hasCode, CharRange.covers,
    notBelow, notControl, notSpace, beforeNext]

end Inflection.Text
