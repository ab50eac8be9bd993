import Inflection.Pattern.Expr

/-!
# Pattern programs

A pattern expression is turned into a program for a search: instructions that
name their successors by number.  An expression is laid out from its end to its
start, so that each part knows where to go on.  Only a loop refers forward, to a
choice that is filled in once its body is there.
-/

namespace Inflection.Pattern

open Inflection.Text

/-- One instruction of a program. -/
inductive Instruction where
  /-- Read a character out of a set. -/
  | char (set : CharSet) (next : Nat)
  /-- Go on if a condition holds at this place. -/
  | check (condition : Assertion) (next : Nat)
  /-- Try the first way, then the second. -/
  | choose (first second : Nat)
  /-- A match is complete. -/
  | done
  deriving Repr

/-- The instructions laid out so far. -/
abbrev Code :=
  Array Instruction

/-- A program and the instruction that it starts with. -/
structure Program where
  code : Code
  entry : Nat

/-- Code with the number of the instruction to start at. -/
abbrev Layout :=
  Nat × Code

/-- Appends an instruction and starts at it. -/
def Code.emit (code : Code) (instruction : Instruction) : Layout :=
  (code.size, code.push instruction)

/-- The choice between another round and going on, in the order that the
repetition prefers. -/
def Instruction.another (greedy : Bool) (round next : Nat) : Instruction :=
  if greedy then .choose round next else .choose next round

/-- Lays out one round of a body and, after it, the choice of a
further round. -/
def loopFrom
    (greedy : Bool)
    (body : Layout → Layout)
    (layout : Layout) :
    Layout :=
  let again := layout.2.size
  let (round, code) := body (layout.2.emit (.choose layout.1 layout.1))
  (round, code.setIfInBounds again (.another greedy round layout.1))

/-- Lays out an optional body; leaving it out goes on at `skip`. -/
def optionally
    (greedy : Bool)
    (skip : Nat)
    (body : Layout → Layout)
    (layout : Layout) :
    Layout :=
  let (round, code) := body layout
  code.emit (.another greedy round skip)

/-- Lays out a number of copies of a body. -/
def copies (body : Layout → Layout) : Nat → Layout → Layout
  | 0, layout => layout
  | count + 1, layout => copies body count (body layout)

/-- Lays out an expression in front of what follows it.

A loop without a lower bound chooses before each round.  If its body may be
empty, the choice comes after each round instead, and the whole is optional: the
first round is then preferred to none even where it reads nothing. -/
def Expr.layOut : Expr → Layout → Layout
  | .empty, layout => layout
  | .chars set, (next, code) => code.emit (.char set next)
  | .assertion condition, (next, code) => code.emit (.check condition next)
  | .seq first second, layout => first.layOut (second.layOut layout)
  | .alt first second, (next, code) =>
    let (otherwise, code) := second.layOut (next, code)
    let (preferred, code) := first.layOut (next, code)
    code.emit (.choose preferred otherwise)
  | .group _ body, layout => body.layOut layout
  | .rounds body least (some most) greedy, (next, code) =>
    copies body.layOut least
      (copies (optionally greedy next body.layOut) (most - least) (next, code))
  | .rounds body (least + 1) none greedy, layout =>
    copies body.layOut least (loopFrom greedy body.layOut layout)
  | .rounds body 0 none greedy, (next, code) =>
    if body.nullable then
      optionally greedy next (loopFrom greedy body.layOut) (next, code)
    else
      (code.size, (loopFrom greedy body.layOut (next, code)).2)

/-- The program of an expression. -/
def Expr.program (expr : Expr) : Program :=
  let (entry, code) := expr.layOut (0, #[.done])
  ⟨code, entry⟩

end Inflection.Pattern
