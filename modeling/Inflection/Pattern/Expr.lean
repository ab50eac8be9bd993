import Inflection.Text.Property

/-!
# Pattern expressions

A pattern expression says which stretches of a text are wanted: single
characters out of a set, conditions on a place in the text, and sequences,
alternatives and repetitions of these. Alternatives are ordered, and a
repetition prefers either more rounds or fewer; both matter, because a search
reports the preferred match and not the longest.
-/

namespace Inflection.Pattern

open Inflection.Text

/-- The ways in which a place can lie at the edge of a word. -/
inductive WordEdge where
  /-- Exactly one neighbour belongs to a word. -/
  | boundary
  /-- Both neighbours belong to a word, or neither. -/
  | inside
  /-- A word starts here. -/
  | start
  /-- A word stops here. -/
  | stop
  /-- No word is before this place. -/
  | startHalf
  /-- No word is after this place. -/
  | stopHalf
  deriving DecidableEq, Repr

/-- A condition on a place in the text. -/
inductive Assertion where
  | textStart
  | textStop
  /-- A line starts here; with `returns`, a carriage return ends a line too. -/
  | lineStart (returns : Bool)
  /-- A line stops here; with `returns`, a carriage return ends a line too. -/
  | lineStop (returns : Bool)
  /-- An edge of a word, which is made of letters of all scripts or, with
  `ascii`, of ASCII only. -/
  | wordEdge (edge : WordEdge) (ascii : Bool)
  deriving DecidableEq, Repr

/-- The ASCII characters of words. -/
def asciiWordChars : CharSet :=
  ⟨[⟨0x30, 0x39⟩, ⟨0x41, 0x5A⟩, ⟨0x5F, 0x5F⟩, ⟨0x61, 0x7A⟩]⟩

/-- Tells whether a place is at the wanted edge, from whether its neighbours
belong to words. -/
def WordEdge.holds (edge : WordEdge) (wordBefore wordAfter : Bool) : Bool :=
  match edge with
  | .boundary => wordBefore != wordAfter
  | .inside => wordBefore == wordAfter
  | .start => !wordBefore && wordAfter
  | .stop => wordBefore && !wordAfter
  | .startHalf => !wordBefore
  | .stopHalf => !wordAfter

/-- Tells whether a condition holds between two characters; there is none at an
end of the text. -/
def Assertion.holds
    (assertion : Assertion)
    (before after : Option Char) :
    Bool :=
  match assertion with
  | .textStart => before.isNone
  | .textStop => after.isNone
  | .lineStart false => before.isNone || before == some '\n'
  | .lineStop false => after.isNone || after == some '\n'
  | .lineStart true =>
    before.isNone || before == some '\n' ||
      (before == some '\r' && after != some '\n')
  | .lineStop true =>
    after.isNone || after == some '\r' ||
      (after == some '\n' && before != some '\r')
  | .wordEdge edge ascii =>
    let members := if ascii then asciiWordChars else wordChars
    edge.holds (before.any members.contains) (after.any members.contains)

/-- A pattern expression. -/
inductive Expr where
  /-- The empty stretch. -/
  | empty
  /-- One character out of a set. -/
  | chars (set : CharSet)
  /-- The empty stretch, at a place where a condition holds. -/
  | assertion (condition : Assertion)
  /-- Two stretches, one after the other. -/
  | seq (first second : Expr)
  /-- Either of two; the first is preferred. -/
  | alt (first second : Expr)
  /-- At least `least` stretches and at most `most`, more of them preferred
  if `greedy`. -/
  | rounds (body : Expr) (least : Nat) (most : Option Nat) (greedy : Bool)
  /-- A group that keeps track of its stretch. -/
  | group (number : Nat) (body : Expr)
  deriving DecidableEq, Repr

namespace Expr

/-- Tells whether the empty stretch may match. -/
def nullable : Expr → Bool
  | .empty => true
  | .chars _ => false
  | .assertion _ => true
  | .seq first second => first.nullable && second.nullable
  | .alt first second => first.nullable || second.nullable
  | .rounds body least _ _ => least == 0 || body.nullable
  | .group _ body => body.nullable

/-- Tells whether only the empty stretch can match. -/
def widthless : Expr → Bool
  | .empty => true
  | .chars _ => false
  | .assertion _ => true
  | .seq first second => first.widthless && second.widthless
  | .alt first second => first.widthless && second.widthless
  | .rounds body _ _ _ => body.widthless
  | .group _ body => body.widthless

/-- A repetition.  More than one round of an expression without width says no
more than one. -/
def repeated
    (body : Expr)
    (least : Nat)
    (most : Option Nat)
    (greedy : Bool) :
    Expr :=
  let least := if body.widthless then min least 1 else least
  let most := if body.widthless then some (min (most.getD 1) 1) else most
  if most == some 0 then .empty
  else if least == 1 && most == some 1 then body
  else .rounds body least most greedy

/-- The expressions that an expression puts one after the other. -/
def factors : Expr → List Expr
  | .empty => []
  | .seq first second => first.factors ++ second.factors
  | expr => [expr]

/-- The alternatives that an expression leaves a choice of. -/
def choices : Expr → List Expr
  | .alt first second => first.choices ++ second.choices
  | expr => [expr]

/-- The chain of some expressions. -/
def chain : List Expr → Expr
  | [] => .empty
  | [only] => only
  | first :: rest => .seq first (chain rest)

/-- Some expressions, one after the other. -/
def sequence (exprs : List Expr) : Expr :=
  chain (exprs.flatMap factors)

/-- The only character that an expression stands for. -/
def literal? : Expr → Option Char
  | .chars set => set.onlyChar?
  | _ => none

/-- The set of an expression that stands for one character out of a set. -/
def set? : Expr → Option CharSet
  | .chars set => some set
  | _ => none

/-- The set that some alternatives amount to, if all of them are single
characters or all of them are other sets. -/
def joinedSet? (alternatives : List Expr) : Option CharSet := do
  let sets ← alternatives.mapM set?
  let isSingle (set : CharSet) : Bool := set.onlyChar?.isSome
  if sets.all isSingle || sets.all fun set => !isSingle set then
    some (CharSet.unions sets)
  else
    none

/-- The choice between some alternatives as they stand. -/
def choice : List Expr → Expr
  | [] => .empty
  | [only] => only
  | first :: rest => .alt first (choice rest)

/-- The choice between some alternatives, or the set that they amount to. -/
def choiceOrSet (alternatives : List Expr) : Expr :=
  match joinedSet? alternatives with
  | some set => .chars set
  | none => choice alternatives

/-- What an expression puts one after the other, where characters that stand
together make up one piece. -/
def pieces (expr : Expr) : List (List Expr) :=
  expr.factors.splitBy fun left right =>
    left.literal?.isSome && right.literal?.isSome

/-- The start that two lists of pieces have in common. -/
def commonStart : List (List Expr) → List (List Expr) → List (List Expr)
  | left :: lefts, right :: rights =>
    if left == right then left :: commonStart lefts rights else []
  | _, _ => []

/-- The pieces that all alternatives start with.  There are none unless each
alternative has several. -/
def sharedStart (parted : List (List (List Expr))) : List (List Expr) :=
  match parted with
  | [] => []
  | first :: others =>
    if parted.all fun pieces => 1 < pieces.length then
      others.foldl commonStart first
    else
      []

/-- Any of some expressions, the earlier preferred.  What all of them start with
is put in front of the choice. -/
def anyOf (exprs : List Expr) : Expr :=
  let alternatives := exprs.flatMap choices
  let parted := alternatives.map pieces
  let shared := sharedStart parted
  if shared.isEmpty then choiceOrSet alternatives
  else
    let rests := parted.flatMap fun pieces =>
      (chain (pieces.drop shared.length).flatten).choices
    sequence (shared.flatten ++ [choiceOrSet rests])

end Expr

end Inflection.Pattern
