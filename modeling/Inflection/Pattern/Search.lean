import Inflection.Pattern.Program

/-!
# Searching

A search runs a program over a text, all its ways at once.  The ways still open
at a place are kept as threads in the order of preference, and an instruction is
entered at most once per place, by the most preferred thread that reaches it.
So the time is bounded by the length of the text times the size of the program,
whatever the pattern.

As long as nothing has matched, each place opens a new thread behind the others:
matches that start earlier are preferred.  When a thread completes a match,
those behind it are dropped, and those in front of it may still replace the
match by a preferred one.
-/

namespace Inflection.Pattern

open Inflection.Text

/-- A stretch of a text: the characters from number `start` up to, but without,
number `stop`. -/
structure Span where
  start : Nat
  stop : Nat
  deriving DecidableEq, Repr

/-- Tells whether a stretch has no characters. -/
def Span.isEmpty (span : Span) : Bool :=
  span.start == span.stop

/-- A way through the program: the next instruction, and the place where its
match starts. -/
structure Thread where
  label : Nat
  start : Nat

/-- The threads that wait for a character at one place, the least preferred
first, and which instructions have been entered there. -/
structure Frontier where
  entered : Array Bool
  waiting : List Thread

/-- A place in a text: its number, the character before it and the
characters after it. -/
structure Place where
  before : Option Char
  ahead : List Char
  position : Nat

/-- The start of a text. -/
def Place.start (text : List Char) : Place :=
  ⟨none, text, 0⟩

/-- The place a number of characters further on. -/
def Place.advance : Nat → Place → Place
  | 0, place => place
  | _ + 1, ⟨before, [], position⟩ => ⟨before, [], position⟩
  | count + 1, ⟨_, char :: ahead, position⟩ =>
    advance count ⟨some char, ahead, position + 1⟩

/-- Follows choices and conditions from some instructions up to those that wait
for a character. Each round enters an instruction for the first time or drops
one from the list. -/
def follow
    (code : Code)
    (before after : Option Char)
    (start : Nat) :
    Nat → List Nat → Frontier → Frontier
  | 0, _, frontier => frontier
  | _, [], frontier => frontier
  | rounds + 1, label :: labels, ⟨entered, waiting⟩ =>
    if entered.getD label true then
      follow code before after start rounds labels ⟨entered, waiting⟩
    else
      let entered := entered.setIfInBounds label true
      match code[label]? with
      | some (.choose first second) =>
        follow code before after start rounds (first :: second :: labels)
          ⟨entered, waiting⟩
      | some (.check condition next) =>
        let labels :=
          if condition.holds before after then next :: labels else labels
        follow code before after start rounds labels ⟨entered, waiting⟩
      | _ =>
        follow code before after start rounds labels
          ⟨entered, ⟨label, start⟩ :: waiting⟩

/-- Adds a thread behind those of a frontier.  A choice is entered once and
leaves two labels, so twice the number of instructions bounds the rounds. -/
def Frontier.enter
    (frontier : Frontier)
    (code : Code)
    (before after : Option Char)
    (thread : Thread) :
    Frontier :=
  follow code before after thread.start (2 * code.size + 1)
    [thread.label] frontier

/-- Moves waiting threads over a character, until one of them
completes a match. -/
def moveOver
    (code : Code)
    (after : Option Char)
    (position : Nat)
    (best : Option Span) :
    List Thread → List Thread → List Thread × Option Span
  | [], moved => (moved.reverse, best)
  | thread :: threads, moved =>
    match code[thread.label]? with
    | some .done => (moved.reverse, some ⟨thread.start, position⟩)
    | some (.char set next) =>
      if after.any set.contains then
        moveOver code after position best threads
          (⟨next, thread.start⟩ :: moved)
      else
        moveOver code after position best threads moved
    | _ => moveOver code after position best threads moved

namespace Program

/-- Handles one place of the text: the threads behind it, and the best
match so far. -/
def step
    (program : Program)
    (before after : Option Char)
    (position : Nat)
    (threads : List Thread)
    (best : Option Span) :
    List Thread × Option Span :=
  let opened :=
    if best.isNone then threads ++ [⟨program.entry, position⟩] else threads
  let frontier := opened.foldl
    (fun frontier thread => frontier.enter program.code before after thread)
    (Frontier.mk (Array.replicate program.code.size false) [])
  moveOver program.code after position best frontier.waiting.reverse []

/-- Searches on from a place, with threads that started before it. -/
def findWith (program : Program) :
    Option Char → List Char → Nat → List Thread → Option Span → Option Span
  | before, [], position, threads, best =>
    (program.step before none position threads best).2
  | before, char :: ahead, position, threads, best =>
    let (threads, best) := program.step before (some char) position threads best
    if threads.isEmpty && best.isSome then best
    else findWith program (some char) ahead (position + 1) threads best

/-- The preferred match among those that start earliest, from a place on. -/
def find? (program : Program) (place : Place) : Option Span :=
  program.findWith place.before place.ahead place.position [] none

/-- The next match from a place on.  An empty match where the previous match
stopped does not count; the search then goes on behind the next character. -/
def next?
    (program : Program)
    (lastStop : Option Nat)
    (place : Place) :
    Option Span :=
  match program.find? place with
  | none => none
  | some span =>
    if span.isEmpty && lastStop == some span.stop then
      if place.ahead.isEmpty then none else program.find? (place.advance 1)
    else
      some span

/-- The successive matches from a place on, at most as many as the
first argument. -/
def spansFrom (program : Program) : Nat → Option Nat → Place → List Span
  | 0, _, _ => []
  | rounds + 1, lastStop, place =>
    match program.next? lastStop place with
    | none => []
    | some span =>
      span :: program.spansFrom rounds (some span.stop)
        (place.advance (span.stop - place.position))

/-- The successive matches in a text.  Each stops behind the one before it, so
their number is at most one more than that of the characters. -/
def spans (program : Program) (text : List Char) : List Span :=
  program.spansFrom (text.length + 1) none (.start text)

end Program

end Inflection.Pattern
