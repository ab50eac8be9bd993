import Inflection.Text.CaseFolding
import Inflection.Text.Split
import Inflection.Pattern.Flags

/-!
# Escapes

A backslash gives the characters behind it another meaning: a character by
its number, a class of characters, a condition on the place, or a character
that would otherwise be special.  Digits and most letters have no such
meaning and are refused.
-/

namespace Inflection.Pattern

open Inflection.Text

/-- The meaning of an escape. -/
inductive Escape where
  /-- A character; `asByte` if its number was written with two
  hexadecimal digits. -/
  | char (char : Char) (asByte : Bool)
  | set (set : CharSet)
  | assertion (condition : Assertion)

/-- The character with this number, if there is one. -/
def charOfCode? (code : Nat) : Option Char :=
  if code < 0xD800 || (0xE000 ≤ code && code ≤ lastCodePoint) then
    some (Char.ofNat code)
  else
    none

namespace Flags

/-- A set as a class of characters: closed under case where case
does not matter. -/
def withCase (flags : Flags) (set : CharSet) : CharSet :=
  if !flags.ignoreCase then set
  else if flags.unicode then set.closeUnderCase
  else set.closeUnderAsciiCase

/-- The complement of a set, if wanted.  Without Unicode it would have parts of
characters as members and is refused. -/
def complIf?
    (flags : Flags)
    (negated : Bool)
    (set : CharSet) :
    Option CharSet :=
  if !negated then some set
  else if flags.unicode then some set.compl
  else none

/-- The digits, blank characters and word characters that a letter stands
for. -/
def letterClass? (flags : Flags) (letter : Char) : Option CharSet :=
  let pick (unicode ascii : CharSet) : CharSet :=
    if flags.unicode then unicode else ascii
  match letter with
  | 'd' | 'D' =>
    flags.complIf? (letter == 'D') (pick decimalDigits (.ofRange '0' '9'))
  | 's' | 'S' =>
    flags.complIf? (letter == 'S') (pick blanks ⟨[⟨9, 13⟩, ⟨32, 32⟩]⟩)
  | 'w' | 'W' => flags.complIf? (letter == 'W') (pick wordChars asciiWordChars)
  | _ => none

end Flags

/-- Reads a number of hexadecimal digits; all must be there. -/
def readHexDigits
    (flags : Flags) :
    Nat → Nat → List Char → Option (Nat × List Char)
  | 0, value, chars => some (value, chars)
  | _ + 1, _, [] => none
  | count + 1, value, char :: rest =>
    match hexDigit? char with
    | none => none
    | some digit =>
      readHexDigits flags count (16 * value + digit) (flags.skip rest)

/-- Reads what stands before a closing brace. -/
def readBraced
    (flags : Flags)
    (chars : List Char) :
    Option (List Char × List Char) :=
  match flags.run (· != '}') (flags.skip chars) with
  | (content, '}' :: rest) => some (content, rest)
  | _ => none

/-- Reads the number of a character behind `x`, `u` or `U`: `count` digits, or
any number of them in braces. -/
def readCode
    (flags : Flags)
    (count : Nat)
    (chars : List Char) :
    Option (Escape × List Char) :=
  match flags.skip chars with
  | '{' :: rest => do
    let (digits, rest) ← readBraced flags rest
    if digits.isEmpty || digits.any fun digit => (hexDigit? digit).isNone then
      none
    else
      let char ← charOfCode? (hexValue digits)
      some (.char char false, rest)
  | chars => do
    let (code, rest) ← readHexDigits flags count 0 chars
    let char ← charOfCode? code
    some (.char char (count == 2), rest)

/-- The code points of a property written in braces: a name, or a name
and a value. -/
def bracedProperty? (content : List Char) : Option (CharSet × Bool) :=
  match splitAt? ['!', '='] content with
  | some (name, value) => (Property.withValue? name value).map (·, true)
  | none =>
    match splitAt? [':'] content <|> splitAt? ['='] content with
    | some (name, value) => (Property.withValue? name value).map (·, false)
    | none => (Property.named? content).map (·, false)

/-- Reads a property behind `p` or `P`: one letter, or a name in braces. -/
def readProperty
    (flags : Flags)
    (negated : Bool)
    (chars : List Char) :
    Option (Escape × List Char) := do
  let ((set, differs), rest) ←
    match flags.skip chars with
    | [] => none
    | '{' :: rest => do
      let (content, rest) ← readBraced flags rest
      let property ← bracedProperty? content
      some (property, rest)
    | letter :: rest => do
      let set ← Property.named? [letter]
      some ((set, false), rest)
  if flags.unicode then
    let set ← flags.complIf? (negated != differs) (flags.withCase set)
    some (.set set, rest)
  else
    none

/-- The edges of words that are written with a name in braces. -/
def wordEdgeNamed? (name : List Char) : Option WordEdge :=
  match String.ofList name with
  | "start" => some .start
  | "end" => some .stop
  | "start-half" => some .startHalf
  | "end-half" => some .stopHalf
  | _ => none

/-- Tells whether a character can be part of the name of a word edge. -/
def isEdgeNameChar (char : Char) : Bool :=
  char.isAlpha || char == '-'

/-- Reads what may follow `b`: the name of a word edge in braces.  A
brace that is followed by no such name is left, as it may start the count
of a repetition. -/
def readWordEdge
    (flags : Flags)
    (chars : List Char) :
    Option (WordEdge × List Char) :=
  match chars with
  | '{' :: inner =>
    match flags.skip inner with
    | [] => none
    | first :: rest =>
      if isEdgeNameChar first then
        match flags.run isEdgeNameChar (first :: rest) with
        | (name, '}' :: rest) => (wordEdgeNamed? name).map (·, rest)
        | _ => none
      else
        some (.boundary, chars)
  | _ => some (.boundary, chars)

/-- Tells whether a character stands for itself behind a backslash. -/
def isEscapable (char : Char) : Bool :=
  char.toNat < 128 && !char.isAlphanum && char != '<' && char != '>'

/-- Reads an escape, from the character behind the backslash on. -/
def readEscape
    (flags : Flags)
    (chars : List Char) :
    Option (Escape × List Char) :=
  let edge (edge : WordEdge) : Escape :=
    .assertion (.wordEdge edge !flags.unicode)
  match chars with
  | [] => none
  | 'x' :: rest => readCode flags 2 rest
  | 'u' :: rest => readCode flags 4 rest
  | 'U' :: rest => readCode flags 8 rest
  | 'p' :: rest => readProperty flags false rest
  | 'P' :: rest => readProperty flags true rest
  | 'a' :: rest => some (.char '\x07' false, rest)
  | 'f' :: rest => some (.char '\x0C' false, rest)
  | 't' :: rest => some (.char '\t' false, rest)
  | 'n' :: rest => some (.char '\n' false, rest)
  | 'r' :: rest => some (.char '\r' false, rest)
  | 'v' :: rest => some (.char '\x0B' false, rest)
  | 'A' :: rest => some (.assertion .textStart, rest)
  | 'z' :: rest => some (.assertion .textStop, rest)
  | 'b' :: rest =>
    (readWordEdge flags rest).map fun (found, rest) => (edge found, rest)
  | 'B' :: rest => some (edge .inside, rest)
  | '<' :: rest => some (edge .start, rest)
  | '>' :: rest => some (edge .stop, rest)
  | char :: rest =>
    if isEscapable char then some (.char char false, rest)
    else (flags.letterClass? char).map fun set => (.set set, rest)

end Inflection.Pattern
