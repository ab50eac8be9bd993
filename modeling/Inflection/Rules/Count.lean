import Inflection.Text.Blank
import Inflection.Text.Digits

/-!
# Counts of characters

Rule files say how many characters to remove from the end of a verb.  They are
written by hand, so a count is whatever integer its text starts with, after
blank characters and with a sign if there is one.  A negative number counts as
zero, and so does a text that starts with no number.
-/

namespace Inflection.Rules

open Inflection.Text

/-- The largest count that is kept; larger ones remove every character
just as well. -/
def largestCount : Nat :=
  18446744073709551615

/-- The count that digits at the start of a text write. -/
def digitsCount (chars : List Char) : Nat :=
  min (decimalValue (chars.takeWhile Char.isDigit)) largestCount

/-- The count that a text starts with. -/
def countAtStart (text : String) : Nat :=
  match text.toList.dropWhile isBlank with
  | '-' :: _ => 0
  | '+' :: rest => digitsCount rest
  | chars => digitsCount chars

/-- A word without its last characters. -/
def removeLast (count : Nat) (word : List Char) : List Char :=
  word.take (word.length - count)

end Inflection.Rules
