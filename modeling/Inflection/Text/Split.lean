/-!
# Splitting text

Splitting at the first occurrence of a separator.  The part before the separator
does not contain it, and the separator itself belongs to neither part.
-/

namespace Inflection.Text

/-- Splits at the first occurrence of a separator; `before` holds what was
passed, in reverse. -/
def splitFrom?
    (separator before : List Char) :
    List Char → Option (List Char × List Char)
  | [] => none
  | char :: rest =>
    if separator.isPrefixOf (char :: rest) then
      some (before.reverse, (char :: rest).drop separator.length)
    else
      splitFrom? separator (char :: before) rest

/-- Splits at the first occurrence of a separator, if there is one. -/
def splitAt? (separator chars : List Char) : Option (List Char × List Char) :=
  splitFrom? separator [] chars

/-- What follows an expected start, if a text starts with it. -/
def after? (expected chars : List Char) : Option (List Char) :=
  if expected.isPrefixOf chars then some (chars.drop expected.length) else none

end Inflection.Text
