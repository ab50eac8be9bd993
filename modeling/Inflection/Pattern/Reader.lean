import Inflection.Pattern.Bracket
import Inflection.Pattern.Size

/-!
# Reading patterns

A pattern is read in one pass.  Groups that are still open are kept on a stack
with the flags to restore behind them, so the reader is one loop over the text,
and the expression of each part is built from the expressions of its own parts.

Along with its expression, each part has a depth: the number of classes,
repetitions, groups, sequences and choices around its innermost parts.  A
pattern that is nested too deeply is refused, and so is one that is too large.
-/

namespace Inflection.Pattern

open Inflection.Text

/-- A part of a pattern that has been read. -/
structure Part where
  expr : Expr
  depth : Nat
  /-- A directive, which sets flags and cannot be repeated. -/
  isDirective : Bool := false

/-- What stands before the present part of a group, at its level: the parts in
sequence so far and the alternatives before them, both the latest first. -/
structure Level where
  parts : List Part
  alternatives : List Part

/-- A group that is still open: the flags outside of it, what stands before it,
and its number if it keeps track of its stretch. -/
structure OpenGroup where
  flags : Flags
  level : Level
  number : Option Nat

/-- The state of reading.  Groups that keep track of their stretches are
counted, and their names are kept. -/
structure Reading where
  flags : Flags
  level : Level
  outer : List OpenGroup
  names : List (List Char)
  groups : Nat

/-- The depth of a combination of several parts. -/
def depthAround (parts : List Part) : Nat :=
  1 + (parts.map Part.depth).foldl max 0

namespace Level

/-- A level with nothing on it. -/
def empty : Level :=
  ⟨[], []⟩

/-- Adds a part in sequence. -/
def add (level : Level) (part : Part) : Level :=
  { level with parts := part :: level.parts }

/-- The parts in sequence, as one part. -/
def joined (level : Level) : Part :=
  match level.parts with
  | [] => { expr := .empty, depth := 0 }
  | [part] => part
  | parts =>
    { expr := .sequence (parts.reverse.map Part.expr),
      depth := depthAround parts }

/-- Goes on to the next alternative. -/
def alternate (level : Level) : Level :=
  ⟨[], level.joined :: level.alternatives⟩

/-- The whole level, as one part. -/
def finished (level : Level) : Part :=
  match level.alternatives with
  | [] => level.joined
  | alternatives =>
    let parts := level.joined :: alternatives
    { expr := .anyOf (parts.reverse.map Part.expr), depth := depthAround parts }

/-- Repeats the latest part.  There must be one, and it must not be
a directive. -/
def repeatLast?
    (level : Level)
    (least : Nat)
    (most : Option Nat)
    (greedy : Bool) :
    Option Level :=
  match level.parts with
  | [] => none
  | part :: parts =>
    if part.isDirective then none
    else
      let repeated : Part :=
        { expr := part.expr.repeated least most greedy
          depth := 1 + part.depth }
      some { level with parts := repeated :: parts }

end Level

/-- The largest count of a repetition. -/
def largestCount : Nat :=
  4294967295

/-- Reads a number in the count of a repetition, with blank
characters around it. -/
def readNumber (flags : Flags) (chars : List Char) : Option (Nat × List Char) :=
  let (digits, rest) := flags.run Char.isDigit (chars.dropWhile isBlank)
  if digits.isEmpty || largestCount < decimalValue digits then none
  else some (decimalValue digits, flags.skip (rest.dropWhile isBlank))

/-- Reads the count of a repetition, from the character behind its brace on. -/
def readCounts
    (flags : Flags)
    (chars : List Char) :
    Option (Nat × Option Nat × List Char) := do
  let (least, rest) ← readNumber flags (flags.skip chars)
  match rest with
  | '}' :: rest => some (least, some least, rest)
  | ',' :: rest =>
    match flags.skip rest with
    | '}' :: rest => some (least, none, rest)
    | rest => do
      let (most, rest) ← readNumber flags rest
      match rest with
      | '}' :: rest =>
        if least ≤ most then some (least, some most, rest) else none
      | _ => none
  | _ => none

/-- Reads the sign that makes a repetition prefer fewer rounds: whether it
prefers more, and the rest. -/
def readGreed (flags : Flags) (chars : List Char) : Bool × List Char :=
  match chars with
  | '?' :: rest => (flags.swapGreed, rest)
  | _ => (!flags.swapGreed, chars)

/-- Tells whether a character can be part of the name of a group. -/
def isNameChar (first : Bool) (char : Char) : Bool :=
  if first then char == '_' || alphabetic.contains char
  else char == '_' || char == '.' || char == '[' || char == ']' ||
    alphanumeric.contains char

/-- Reads the name of a group, which ends with an angle bracket. -/
def readGroupName (chars : List Char) : Option (List Char × List Char) :=
  match chars.span (· != '>') with
  | (first :: others, '>' :: rest) =>
    if isNameChar true first && others.all (isNameChar false) then
      some (first :: others, rest)
    else
      none
  | _ => none

/-- The expression of a character that stands for itself. -/
def literal? (flags : Flags) (char : Char) (asByte : Bool) : Option Expr :=
  if !flags.unicode && asByte && 128 ≤ char.toNat then none
  else some (.chars (flags.withCase (.single char)))

/-- The expression of a dot, which stands for any character but the
end of a line. -/
def dot? (flags : Flags) : Option Expr :=
  if !flags.unicode then none
  else if flags.dotMatchesLineEnd then some (.chars .all)
  else if flags.returns then some (.chars (CharSet.ofChars ['\n', '\r']).compl)
  else some (.chars (CharSet.single '\n').compl)

/-- The expression of a group with this content. -/
def OpenGroup.around (group : OpenGroup) (content : Expr) : Expr :=
  match group.number with
  | none => content
  | some number => .group number content

namespace Reading

/-- The state before the first character. -/
def start : Reading :=
  ⟨{}, .empty, [], [], 0⟩

/-- Adds a part in sequence. -/
def add (reading : Reading) (part : Part) : Reading :=
  { reading with level := reading.level.add part }

/-- Opens a group that sets flags and does not keep track of its stretch. -/
def openFlagGroup (reading : Reading) (flags : Flags) : Reading :=
  let group : OpenGroup := ⟨reading.flags, reading.level, none⟩
  { reading with
    flags := flags, level := .empty, outer := group :: reading.outer }

/-- Opens a group that keeps track of its stretch. -/
def openGroup (reading : Reading) : Reading :=
  let number := reading.groups + 1
  let group : OpenGroup := ⟨reading.flags, reading.level, some number⟩
  { reading with
    level := .empty, outer := group :: reading.outer, groups := number }

/-- Closes the innermost group, if there is one. -/
def closeGroup? (reading : Reading) : Option Reading :=
  match reading.outer with
  | [] => none
  | group :: outer =>
    let content := reading.level.finished
    let part : Part :=
      { expr := group.around content.expr, depth := 1 + content.depth }
    some { reading with
      flags := group.flags, level := group.level.add part, outer := outer }

/-- Reads what a group starts with, from the character behind its parenthesis
on.  Conditions on what stands around a place are refused. -/
def enterGroup?
    (reading : Reading)
    (chars : List Char) :
    Option (Reading × List Char) :=
  let named (rest : List Char) : Option (Reading × List Char) := do
    let (name, rest) ← readGroupName rest
    if reading.names.contains name then none
    else some ({ reading.openGroup with names := name :: reading.names }, rest)
  match reading.flags.skip chars with
  | '?' :: '=' :: _ | '?' :: '!' :: _ => none
  | '?' :: '<' :: '=' :: _ | '?' :: '<' :: '!' :: _ => none
  | '?' :: 'P' :: '<' :: rest => named rest
  | '?' :: '<' :: rest => named rest
  | '?' :: rest => do
    let (settings, flagsEnd, rest) ← readFlags false false [] rest
    let flags := reading.flags.setAll settings
    match flagsEnd with
    | .group => some (reading.openFlagGroup flags, rest)
    | .directive =>
      if settings.isEmpty then none
      else
        let directive : Part :=
          { expr := .empty, depth := 0, isDirective := true }
        some ({ reading.add directive with flags := flags }, rest)
  | chars => some (reading.openGroup, chars)

/-- Repeats the latest part. -/
def repeatLast?
    (reading : Reading)
    (least : Nat)
    (most : Option Nat)
    (chars : List Char) :
    Option (Reading × List Char) :=
  let (greedy, rest) := readGreed reading.flags chars
  (reading.level.repeatLast? least most greedy).map fun level =>
    ({ reading with level := level }, rest)

/-- Adds an expression without parts. -/
def addExpr (reading : Reading) (expr : Option Expr) (rest : List Char) :
    Option (Reading × List Char) :=
  expr.map fun expr => (reading.add { expr := expr, depth := 0 }, rest)

/-- Reads the next part, from a character that is not layout on. -/
def step?
    (reading : Reading)
    (char : Char)
    (rest : List Char) :
    Option (Reading × List Char) :=
  let flags := reading.flags
  match char with
  | '(' => reading.enterGroup? rest
  | ')' => reading.closeGroup?.map (·, rest)
  | '|' => some ({ reading with level := reading.level.alternate }, rest)
  | '[' => (readBracket flags rest).map fun (part, rest) =>
    (reading.add { expr := .chars part.set, depth := part.depth }, rest)
  | '?' => reading.repeatLast? 0 (some 1) rest
  | '*' => reading.repeatLast? 0 none rest
  | '+' => reading.repeatLast? 1 none rest
  | '{' => do
    let (least, most, rest) ← readCounts flags rest
    reading.repeatLast? least most (flags.skip rest)
  | '.' => reading.addExpr (dot? flags) rest
  | '^' =>
    let condition :=
      if flags.multiLine then .lineStart flags.returns else .textStart
    reading.addExpr (some (.assertion condition)) rest
  | '$' =>
    let condition :=
      if flags.multiLine then .lineStop flags.returns else .textStop
    reading.addExpr (some (.assertion condition)) rest
  | '\\' => do
    let (escape, rest) ← readEscape flags rest
    match escape with
    | .char char asByte => reading.addExpr (literal? flags char asByte) rest
    | .set set => reading.addExpr (some (.chars set)) rest
    | .assertion condition => reading.addExpr (some (.assertion condition)) rest
  | char => reading.addExpr (literal? flags char false) rest

/-- Reads to the end.  Each round reads at least one character. -/
def run? : Nat → Reading → List Char → Option Part
  | 0, _, _ => none
  | rounds + 1, reading, chars =>
    match reading.flags.skip chars with
    | [] => if reading.outer.isEmpty then some reading.level.finished else none
    | char :: rest => do
      let (reading, rest) ← reading.step? char rest
      run? rounds reading rest

end Reading

/-- The largest depth of a pattern that is accepted. -/
def largestDepth : Nat :=
  250

/-- Reads a pattern, if it is one. -/
def Expr.ofSource? (source : String) : Option Expr := do
  let chars := source.toList
  let part ← Reading.start.run? (chars.length + 1) chars
  if part.depth ≤ largestDepth && part.expr.fits then some part.expr else none

end Inflection.Pattern
