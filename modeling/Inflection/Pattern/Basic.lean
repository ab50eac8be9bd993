import Inflection.Pattern.Reader
import Inflection.Pattern.Search

/-!
# Patterns

A pattern describes stretches of text.  It is made from its source, which may be
refused, and keeps the program that the source stands for.  Patterns are
searched for anywhere in a text; one that is meant for an end of the text says
so with `^` or `$`.
-/

namespace Inflection

open Inflection.Pattern (Expr Program Span)

/-- A pattern: its source, and the program that the source stands for. -/
structure Pattern where
  source : String
  program : Program
  program_eq : (Expr.ofSource? source).map Expr.program = some program

namespace Pattern

/-- The pattern with this source, if the source is well formed. -/
def ofSource? (source : String) : Option Pattern :=
  match read : (Expr.ofSource? source).map Expr.program with
  | none => none
  | some program => some ⟨source, program, read⟩

/-- Tells whether a pattern matches anywhere in a text. -/
def isMatch (pattern : Pattern) (text : List Char) : Bool :=
  (pattern.program.find? (.start text)).isSome

/-- The first match in a text. -/
def firstSpan? (pattern : Pattern) (text : List Char) : Option Span :=
  pattern.program.find? (.start text)

/-- The successive matches in a text.  They do not overlap, and an empty one
never touches the one before it. -/
def spans (pattern : Pattern) (text : List Char) : List Span :=
  pattern.program.spans text

/-- Puts a text in the place of each of some successive stretches, where the
first character given has the number `position`. -/
def splice (replacement : List Char) : Nat → List Char → List Span → List Char
  | _, rest, [] => rest
  | position, rest, span :: spans =>
    rest.take (span.start - position) ++ replacement ++
      splice replacement span.stop (rest.drop (span.stop - position)) spans

/-- Puts a text in the place of the first match. -/
def replaceFirst
    (pattern : Pattern)
    (replacement text : List Char) :
    List Char :=
  splice replacement 0 text (pattern.firstSpan? text).toList

/-- Puts a text in the place of every match. -/
def replaceAll (pattern : Pattern) (replacement text : List Char) : List Char :=
  splice replacement 0 text (pattern.spans text)

/-- A pattern keeps the source that it was made from. -/
theorem source_of_ofSource?
    {source : String}
    {pattern : Pattern}
    (made : ofSource? source = some pattern) :
    pattern.source = source := by
  unfold ofSource? at made
  split at made
  · cases made
  · cases made
    rfl

end Pattern

end Inflection
