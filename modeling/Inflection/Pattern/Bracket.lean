import Inflection.Pattern.Escape

/-!
# Bracketed classes

A class in brackets lists characters, ranges and other classes.  It can be
negated with `^`, contain further brackets, and combine what stands on both
sides of `&&`, `--` and `~~`: the common members, those of the left side only,
and those of exactly one side.  These operators associate to the left and bind
weaker than listing.

Brackets that are still open are kept on a stack, so that the reader is one loop
over the text. Along with its set, each part has a depth, which counts the
brackets, lists and operators around its innermost parts.
-/

namespace Inflection.Pattern

open Inflection.Text

/-- The operators between two sides of a bracket. -/
inductive SetOperator where
  | inter
  | diff
  | symmDiff
  deriving DecidableEq, Repr

/-- What an operator makes of two sets. -/
def SetOperator.apply : SetOperator → CharSet → CharSet → CharSet
  | .inter => CharSet.inter
  | .diff => CharSet.diff
  | .symmDiff => CharSet.symmDiff

/-- A set with its depth. -/
structure ClassPart where
  set : CharSet
  depth : Nat

/-- A bracket that is still open: whether it is negated, the operator that waits
for its right side with its left side, and the parts of the present side, the
latest first. -/
structure OpenBracket where
  negated : Bool
  waiting : Option (SetOperator × ClassPart)
  parts : List ClassPart

namespace OpenBracket

/-- Adds a part to the present side. -/
def add (bracket : OpenBracket) (part : ClassPart) : OpenBracket :=
  { bracket with parts := part :: bracket.parts }

/-- The members listed on the present side.  A list of several parts is one
level deeper. -/
def side (bracket : OpenBracket) : ClassPart :=
  match bracket.parts with
  | [] => ⟨.empty, 0⟩
  | [part] => part
  | parts =>
    ⟨CharSet.unions (parts.map ClassPart.set),
      1 + (parts.map ClassPart.depth).foldl max 0⟩

/-- The present side, combined with the left side of a waiting operator. -/
def combined (flags : Flags) (bracket : OpenBracket) : ClassPart :=
  match bracket.waiting with
  | none => bracket.side
  | some (operator, left) =>
    let right := bracket.side
    ⟨operator.apply (flags.withCase left.set) (flags.withCase right.set),
      1 + max left.depth right.depth⟩

/-- Goes on behind an operator. -/
def await
    (flags : Flags)
    (bracket : OpenBracket)
    (operator : SetOperator) :
    OpenBracket :=
  ⟨bracket.negated, some (operator, bracket.combined flags), []⟩

/-- The class of a bracket that is complete. -/
def close? (flags : Flags) (bracket : OpenBracket) : Option ClassPart :=
  let content := bracket.combined flags
  (flags.complIf? bracket.negated (flags.withCase content.set)).map fun set =>
    ⟨set, 1 + content.depth⟩

end OpenBracket

/-- The classes of ASCII characters that are named inside brackets. -/
def asciiClassNamed? (name : List Char) : Option CharSet :=
  match String.ofList name with
  | "alnum" => some ⟨[⟨0x30, 0x39⟩, ⟨0x41, 0x5A⟩, ⟨0x61, 0x7A⟩]⟩
  | "alpha" => some ⟨[⟨0x41, 0x5A⟩, ⟨0x61, 0x7A⟩]⟩
  | "ascii" => some ⟨[⟨0, 0x7F⟩]⟩
  | "blank" => some ⟨[⟨0x09, 0x09⟩, ⟨0x20, 0x20⟩]⟩
  | "cntrl" => some ⟨[⟨0, 0x1F⟩, ⟨0x7F, 0x7F⟩]⟩
  | "digit" => some ⟨[⟨0x30, 0x39⟩]⟩
  | "graph" => some ⟨[⟨0x21, 0x7E⟩]⟩
  | "lower" => some ⟨[⟨0x61, 0x7A⟩]⟩
  | "print" => some ⟨[⟨0x20, 0x7E⟩]⟩
  | "punct" => some ⟨[⟨0x21, 0x2F⟩, ⟨0x3A, 0x40⟩, ⟨0x5B, 0x60⟩, ⟨0x7B, 0x7E⟩]⟩
  | "space" => some ⟨[⟨0x09, 0x0D⟩, ⟨0x20, 0x20⟩]⟩
  | "upper" => some ⟨[⟨0x41, 0x5A⟩]⟩
  | "word" => some asciiWordChars
  | "xdigit" => some ⟨[⟨0x30, 0x39⟩, ⟨0x41, 0x46⟩, ⟨0x61, 0x66⟩]⟩
  | _ => none

/-- Reads a named class such as `[:alpha:]` or `[:^alpha:]`, from the character
behind its bracket on: whether it is negated, its members, and the rest. -/
def readAsciiClass
    (chars : List Char) :
    Option (Bool × CharSet × List Char) := do
  let (negated, chars) ←
    match chars with
    | ':' :: '^' :: rest => some (true, rest)
    | ':' :: rest => some (false, rest)
    | _ => none
  match chars.span (· != ':') with
  | (name, ':' :: ']' :: rest) =>
    (asciiClassNamed? name).map fun set => (negated, set, rest)
  | _ => none

/-- One entry of a bracket. -/
inductive ClassItem where
  | char (char : Char)
  | set (set : CharSet)

/-- Reads one entry: a character or an escape.  Conditions on a place
are refused. -/
def readAnyItem
    (flags : Flags)
    (chars : List Char) :
    Option (ClassItem × List Char) :=
  match chars with
  | [] => none
  | '\\' :: rest =>
    match readEscape flags rest with
    | some (.char char _, rest) => some (.char char, rest)
    | some (.set set, rest) => some (.set set, rest)
    | _ => none
  | char :: rest => some (.char char, rest)

/-- Reads one entry.  Characters beyond ASCII are refused where a class
has no Unicode. -/
def readClassItem
    (flags : Flags)
    (chars : List Char) :
    Option (ClassItem × List Char) :=
  match readAnyItem flags chars with
  | some (.char char, rest) =>
    if flags.unicode || char.toNat < 128 then some (.char char, rest) else none
  | other => other

/-- The members of one entry. -/
def ClassItem.members : ClassItem → CharSet
  | .char member => .single member
  | .set members => members

/-- Reads an entry or a range between two characters.  A hyphen that is followed
by another one or by the end of the bracket makes no range. -/
def readClassRange
    (flags : Flags)
    (chars : List Char) :
    Option (CharSet × List Char) := do
  let (first, rest) ← readClassItem flags chars
  match flags.skip rest with
  | [] => none
  | '-' :: behind =>
    match flags.skip behind with
    | ']' :: _ | '-' :: _ => some (first.members, '-' :: behind)
    | behind => do
      let (last, rest) ← readClassItem flags behind
      match first, last with
      | .char first, .char last =>
        if first ≤ last then some (.ofRange first last, rest) else none
      | _, _ => none
  | rest => some (first.members, rest)

/-- Opens a bracket, from the character behind it on.  Hyphens at its start are
members, and so is a closing bracket in the first place. -/
def openBracket
    (flags : Flags)
    (chars : List Char) :
    Option (OpenBracket × List Char) := do
  let (negated, chars) ←
    match flags.skip chars with
    | '^' :: rest => some (true, flags.skip rest)
    | chars => some (false, chars)
  let (hyphens, chars) := flags.run (· == '-') chars
  let bracket : OpenBracket :=
    ⟨negated, none, hyphens.map fun hyphen => ⟨.single hyphen, 0⟩⟩
  match chars with
  | [] => none
  | ']' :: rest =>
    if hyphens.isEmpty then some (bracket.add ⟨.single ']', 0⟩, rest)
    else some (bracket, chars)
  | _ => some (bracket, chars)

/-- Reads on inside an open bracket, with those around it on a stack, up to the
end of the outermost. Each round reads at least one character. -/
def readBracketRest (flags : Flags) :
    Nat → OpenBracket → List OpenBracket → List Char →
    Option (ClassPart × List Char)
  | 0, _, _, _ => none
  | rounds + 1, bracket, outer, chars =>
    match flags.skip chars with
    | [] => none
    | '[' :: rest =>
      match readAsciiClass rest with
      | some (negated, set, rest) => do
        let set ← flags.complIf? negated (flags.withCase set)
        readBracketRest flags rounds (bracket.add ⟨set, 0⟩) outer rest
      | none => do
        let (inner, rest) ← openBracket flags rest
        readBracketRest flags rounds inner (bracket :: outer) rest
    | ']' :: rest => do
      let part ← bracket.close? flags
      match outer with
      | [] => some (part, rest)
      | parent :: outer =>
        readBracketRest flags rounds (parent.add part) outer rest
    | '&' :: '&' :: rest =>
      readBracketRest flags rounds (bracket.await flags .inter) outer rest
    | '-' :: '-' :: rest =>
      readBracketRest flags rounds (bracket.await flags .diff) outer rest
    | '~' :: '~' :: rest =>
      readBracketRest flags rounds (bracket.await flags .symmDiff) outer rest
    | chars => do
      let (set, rest) ← readClassRange flags chars
      readBracketRest flags rounds (bracket.add ⟨set, 0⟩) outer rest

/-- Reads a bracketed class, from the character behind its first bracket on. -/
def readBracket
    (flags : Flags)
    (chars : List Char) :
    Option (ClassPart × List Char) := do
  let (bracket, rest) ← openBracket flags chars
  readBracketRest flags (rest.length + 1) bracket [] rest

end Inflection.Pattern
