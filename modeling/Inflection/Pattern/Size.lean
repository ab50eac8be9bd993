import Inflection.Pattern.Expr

/-!
# The size of a pattern

Counted repetitions can make a short pattern very large, so a pattern is refused
if the states that it would be spelled out in need more than ten mebibytes.

The states read one byte at a time.  They are laid out twice: once for going
through a text forwards, where the stretches of groups are kept track of, and
once for going backwards.  Repetitions are written out.  A set of characters
becomes states that read the encoding in UTF-8; forwards, states from which the
same can be read are laid out once, and backwards, only the states of a common
first part are.
-/

namespace Inflection.Pattern

open Inflection.Text

/-- The directions in which a pattern goes through a text. -/
inductive Direction where
  | forward
  | backward
  deriving DecidableEq, Repr

/-- The size of one state. -/
def stateSize : Nat :=
  32

/-- The size of one range of bytes with a state behind it. -/
def rangeSize : Nat :=
  8

/-- The size of one way out of a choice. -/
def wayOutSize : Nat :=
  4

/-- The size of a choice between two ways. -/
def choiceSize : Nat :=
  stateSize + 2 * wayOutSize

/-- The size of some states together. -/
def total (sizes : List Nat) : Nat :=
  sizes.foldl (· + ·) 0

/-! ## Sets of characters -/

/-- The bytes from `first` to `last`, both included. -/
structure ByteRange where
  first : Nat
  last : Nat
  deriving DecidableEq, Repr

/-- Stretches of bytes, each as a sequence of ranges. -/
abbrev ByteSequences :=
  List (List ByteRange)

/-- The number of code points that some digits in base 64 can tell apart. -/
def spanOf : Nat → Nat
  | 0 => 1
  | digits + 1 => 64 * spanOf digits

/-- Sequences of ranges of digits that together stand for the code points
`first` to `last`, where `digits` digits in base 64 follow the leading one. -/
def digitRanges : Nat → Nat → Nat → ByteSequences
  | 0, first, last => [[⟨first, last⟩]]
  | digits + 1, first, last =>
    let unit := spanOf (digits + 1)
    let firstLead := first / unit
    let lastLead := last / unit
    let behind (lead low high : Nat) : ByteSequences :=
      (digitRanges digits low high).map fun ranges => ⟨lead, lead⟩ :: ranges
    let whole (low high : Nat) : List ByteRange :=
      ⟨low, high⟩ :: List.replicate (digits + 1) ⟨0, 63⟩
    let startsWhole := first % unit == 0
    let stopsWhole := last % unit == unit - 1
    if startsWhole && stopsWhole then [whole firstLead lastLead]
    else if firstLead == lastLead then
      behind firstLead (first % unit) (last % unit)
    else
      let lower :=
        if startsWhole then [] else behind firstLead (first % unit) (unit - 1)
      let upper :=
        if stopsWhole then [] else behind lastLead 0 (last % unit)
      let firstWhole := if startsWhole then firstLead else firstLead + 1
      let stop := if stopsWhole then lastLead + 1 else lastLead
      let middle :=
        if firstWhole < stop then [whole firstWhole (stop - 1)] else []
      lower ++ middle ++ upper

/-- Code points whose encodings have one length: `digits` bytes follow a leading
one, which counts from `lead` on. -/
structure EncodingBand where
  first : Nat
  last : Nat
  digits : Nat
  lead : Nat

/-- The bands of the code points that characters have. -/
def encodingBands : List EncodingBand := [
  ⟨0, 0x7F, 0, 0⟩,
  ⟨0x80, 0x7FF, 1, 0xC0⟩,
  ⟨0x800, 0xD7FF, 2, 0xE0⟩,
  ⟨0xE000, 0xFFFF, 2, 0xE0⟩,
  ⟨0x10000, lastCodePoint, 3, 0xF0⟩]

/-- The encodings of the part of a range that lies in a band. -/
def EncodingBand.sequences
    (band : EncodingBand)
    (range : CharRange) :
    ByteSequences :=
  let first := max range.first band.first
  let last := min range.last band.last
  if first ≤ last then
    (digitRanges band.digits first last).map fun ranges =>
      ranges.modifyHead fun range =>
        ⟨band.lead + range.first, band.lead + range.last⟩
  else
    []

/-- The encodings of the members of a set, in ascending order. -/
def encodings (set : CharSet) : ByteSequences :=
  set.ranges.flatMap fun range =>
    encodingBands.flatMap fun band => band.sequences range

/-- What can follow each of the ranges that some sequences start with. -/
def branches (sequences : ByteSequences) : List ByteSequences :=
  let grouped := sequences.splitBy fun left right => left.head? == right.head?
  grouped.map fun group => group.map List.tail

/-- The largest number of bytes that a character is encoded in. -/
def longestEncoding : Nat :=
  4

/-- The states in which some sequences are read, where `bytes` bytes may follow.
Each state is given by the sequences that can be read from there on. -/
def readingStates : Nat → ByteSequences → List ByteSequences
  | 0, _ => []
  | bytes + 1, sequences =>
    if sequences.all List.isEmpty then []
    else sequences :: (branches sequences).flatMap (readingStates bytes)

/-- The size of a set with several members.  A set of ASCII characters needs one
state in either direction. -/
def classSize (direction : Direction) (set : CharSet) : Nat :=
  let sequences := encodings set
  let states := readingStates longestEncoding sequences
  if set.isAscii then
    2 * stateSize + rangeSize * set.ranges.length
  else
    match direction with
    | .forward =>
      let sizes := states.eraseDups.map fun state =>
        stateSize + rangeSize * (branches state).length
      stateSize + total sizes
    | .backward =>
      let ranges := states.map fun state => (branches state).length
      2 * stateSize + wayOutSize * sequences.length + stateSize * total ranges

/-- The size of a set of characters. -/
def setSize (direction : Direction) (set : CharSet) : Nat :=
  match set.onlyChar? with
  | some char => stateSize * char.utf8Size
  | none => classSize direction set

/-! ## Choices between words -/

/-- A word, as the bytes of its encoding. -/
abbrev Word :=
  List UInt8

/-- The characters that an expression puts one after the other, if it is nothing
else. -/
def Expr.word? (expr : Expr) : Option Word := do
  let chars ← expr.factors.mapM Expr.literal?
  if chars.isEmpty then none else some (chars.flatMap String.utf8EncodeChar)

/-- The words that an expression leaves a choice of, if it is nothing else. -/
def Expr.words? (expr : Expr) : Option (List Word) :=
  expr.choices.mapM Expr.word?

/-- What follows a byte in the words that start with it. -/
def wordsBehind (byte : UInt8) (words : List Word) : List Word :=
  words.filterMap fun
    | [] => none
    | first :: rest => if first == byte then some rest else none

/-- The size of the tree of some words with at most `bytes` bytes.  A word that
ends parts the words before it from those behind it, since an earlier word is
preferred; the two sides share no states. -/
def treeSize : Nat → List Word → Nat
  | 0, _ => 0
  | bytes + 1, words =>
    if words.all List.isEmpty then 0
    else
      let isLonger (word : Word) : Bool := !word.isEmpty
      let grouped :=
        words.splitBy fun left right => isLonger left && isLonger right
      let runs := grouped.filter fun run => run.all isLonger
      let ends :=
        min 1 (words.takeWhile List.isEmpty).length +
          (words.dropWhile List.isEmpty).countP List.isEmpty
      let sizes := runs.map fun run =>
        let next := (run.filterMap List.head?).eraseDups
        let ranges := if next.length == 1 then 0 else rangeSize * next.length
        let below := next.map fun byte => treeSize bytes (wordsBehind byte run)
        stateSize + ranges + total below
      stateSize + wayOutSize * (ends + runs.length) + total sizes

/-- The size of a choice between words. -/
def wordsSize (direction : Direction) (words : List Word) : Nat :=
  let words :=
    match direction with
    | .forward => words
    | .backward => words.map List.reverse
  stateSize + treeSize ((words.map List.length).foldl max 0 + 1) words

/-! ## Expressions -/

/-- Tells whether a part of an expression is a set without members. -/
def Expr.hasVoid : Expr → Bool
  | .empty => false
  | .chars set => set.ranges.isEmpty
  | .assertion _ => false
  | .seq first second => first.hasVoid || second.hasVoid
  | .alt first second => first.hasVoid || second.hasVoid
  | .rounds body _ _ _ => body.hasVoid
  | .group _ body => body.hasVoid

/-- The size of a repetition of a body of this size.  The first round of a body
that may be empty has a choice of its own. -/
def roundsSize
    (body : Nat)
    (mayBeEmpty : Bool)
    (least : Nat)
    (most : Option Nat) :
    Nat :=
  match least, most with
  | 0, none =>
    if mayBeEmpty then body + 2 * choiceSize + stateSize else body + choiceSize
  | least, none => least * body + choiceSize
  | 0, some 1 => choiceSize + body + stateSize
  | least, some most =>
    let needed := if least == 0 then stateSize else least * body
    if least == most then needed
    else needed + stateSize + (most - least) * (choiceSize + body)

/-- The size of an expression; with `among`, as one or several of the
alternatives of a choice. -/
def Expr.size (direction : Direction) (among : Bool) : Expr → Nat
  | .empty => entry + stateSize
  | .chars set => entry + setSize direction set
  | .assertion _ => entry + stateSize
  | .seq first second =>
    entry + first.size direction false + second.size direction false
  | .alt first second =>
    let alternatives := first.size direction true + second.size direction true
    if among then alternatives
    else
      match (Expr.alt first second).words? with
      | some words => wordsSize direction words
      | none => 2 * stateSize + alternatives
  | .rounds body least most _ =>
    let mayBeEmpty := body.nullable || body.hasVoid
    entry + roundsSize (body.size direction false) mayBeEmpty least most
  | .group _ body =>
    let tracking :=
      match direction with
      | .forward => 2 * stateSize
      | .backward => 0
    entry + tracking + body.size direction false
where
  /-- The size of the way to an alternative. -/
  entry : Nat :=
    if among then wayOutSize else 0

/-- Tells whether every match starts at the start of the text or,
backwards, at its end. -/
def Expr.isAnchored (direction : Direction) : Expr → Bool
  | .empty => false
  | .chars _ => false
  | .assertion condition =>
    match direction with
    | .forward => condition == .textStart
    | .backward => condition == .textStop
  | .seq first second =>
    let atFirst := first.isAnchored direction
    let atSecond := second.isAnchored direction
    match direction with
    | .forward => atFirst || (first.widthless && atSecond)
    | .backward => atSecond || (second.widthless && atFirst)
  | .alt first second =>
    first.isAnchored direction && second.isAnchored direction
  | .rounds body least _ _ => 0 < least && body.isAnchored direction
  | .group _ body => body.isAnchored direction

/-- The size of all states of a pattern.  Unless every match is at an end
of the text, a loop over single bytes comes first; forwards, the whole
counts as a group. -/
def Expr.programSize (direction : Direction) (expr : Expr) : Nat :=
  let search :=
    if expr.isAnchored direction then stateSize
    else 2 * stateSize + rangeSize + choiceSize
  let done := stateSize
  search + (Expr.group 0 expr).size direction false + done

/-- The largest size of a pattern that is accepted. -/
def largestSize : Nat :=
  10485760

/-- The number of words from which on a choice between words is not
spelled out. -/
def manyWords : Nat :=
  3000

/-- Tells whether a pattern is small enough. -/
def Expr.fits (expr : Expr) : Bool :=
  expr.words?.any (fun words => manyWords ≤ words.length) ||
    (expr.programSize .forward ≤ largestSize &&
      expr.programSize .backward ≤ largestSize)

end Inflection.Pattern
