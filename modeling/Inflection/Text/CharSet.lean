import Inflection.Text.Digits

/-!
# Sets of characters

A set of characters is kept as a list of ranges of code points, in ascending
order and with a gap between any two of them.  Membership walks along the ranges
and stops at the first that starts beyond the character, so it is quick for the
characters that come early in Unicode.

Sets are built with `CharSet.ofRanges`, which sorts ranges and joins those that
touch.  The other operations keep that shape.
-/

namespace Inflection.Text

/-- The code points from `first` to `last`, both included. -/
structure CharRange where
  first : Nat
  last : Nat
  deriving DecidableEq, Repr

/-- A set of code points, as ascending ranges with gaps between them. -/
structure CharSet where
  ranges : List CharRange
  deriving DecidableEq, Repr

/-- The largest code point of Unicode. -/
def lastCodePoint : Nat :=
  0x10FFFF

namespace CharRange

/-- Joins ascending ranges that touch or overlap, starting with `current`. -/
def joinFrom (current : CharRange) : List CharRange → List CharRange
  | [] => [current]
  | next :: rest =>
    if next.first ≤ current.last + 1 then
      joinFrom ⟨current.first, max current.last next.last⟩ rest
    else
      current :: joinFrom next rest

/-- Joins ascending ranges that touch or overlap. -/
def join : List CharRange → List CharRange
  | [] => []
  | range :: rest => joinFrom range rest

/-- Membership in ascending ranges. -/
def covers : List CharRange → Nat → Bool
  | [], _ => false
  | range :: rest, code =>
    if code < range.first then false else code ≤ range.last || covers rest code

/-- The code points from `start` on that ascending ranges leave out. -/
def gapsFrom (start : Nat) : List CharRange → List CharRange
  | [] => if start ≤ lastCodePoint then [⟨start, lastCodePoint⟩] else []
  | range :: rest =>
    if start < range.first then
      ⟨start, range.first - 1⟩ :: gapsFrom (range.last + 1) rest
    else
      gapsFrom (range.last + 1) rest

/-- The code points that two ascending lists of ranges have in common. -/
def common : List CharRange → List CharRange → List CharRange
  | [], _ => []
  | _, [] => []
  | left :: lefts, right :: rights =>
    let first := max left.first right.first
    let last := min left.last right.last
    let shared := if first ≤ last then [⟨first, last⟩] else []
    if left.last < right.last then
      shared ++ common lefts (right :: rights)
    else
      shared ++ common (left :: lefts) rights
  termination_by lefts rights => lefts.length + rights.length

end CharRange

namespace CharSet

/-- The set without members. -/
def empty : CharSet :=
  ⟨[]⟩

/-- Every code point. -/
def all : CharSet :=
  ⟨[⟨0, lastCodePoint⟩]⟩

/-- The set of the code points of some ranges, which may come in any order and
may overlap. -/
def ofRanges (ranges : List CharRange) : CharSet :=
  ⟨CharRange.join (ranges.mergeSort fun left right => left.first ≤ right.first)⟩

/-- The code points from one character to another, both included. -/
def ofRange (first last : Char) : CharSet :=
  ⟨[⟨first.toNat, last.toNat⟩]⟩

/-- The set of one character. -/
def single (char : Char) : CharSet :=
  ofRange char char

/-- The set of some characters. -/
def ofChars (chars : List Char) : CharSet :=
  ofRanges (chars.map fun char => ⟨char.toNat, char.toNat⟩)

/-- The only member of a set, if it has exactly one. -/
def onlyChar? (set : CharSet) : Option Char :=
  match set.ranges with
  | [range] =>
    if range.first == range.last then some (Char.ofNat range.first) else none
  | _ => none

/-- Tells whether all members are ASCII characters. -/
def isAscii (set : CharSet) : Bool :=
  set.ranges.all fun range => range.last ≤ 0x7F

/-- Tells whether a code point is a member. -/
def hasCode (set : CharSet) (code : Nat) : Bool :=
  CharRange.covers set.ranges code

/-- Tells whether a character is a member. -/
def contains (set : CharSet) (char : Char) : Bool :=
  set.hasCode char.toNat

/-- The members of either set. -/
def union (left right : CharSet) : CharSet :=
  ofRanges (left.ranges ++ right.ranges)

/-- The members of any of some sets. -/
def unions (sets : List CharSet) : CharSet :=
  ofRanges (sets.flatMap CharSet.ranges)

/-- The members of both sets. -/
def inter (left right : CharSet) : CharSet :=
  ⟨CharRange.common left.ranges right.ranges⟩

/-- Every code point that is not a member. -/
def compl (set : CharSet) : CharSet :=
  ⟨CharRange.gapsFrom 0 set.ranges⟩

/-- The members of the first set that are not in the second. -/
def diff (left right : CharSet) : CharSet :=
  left.inter right.compl

/-- The members of exactly one of two sets. -/
def symmDiff (left right : CharSet) : CharSet :=
  (left.union right).diff (left.inter right)

end CharSet

/-- Reads one entry of a table: a code point, or two joined by a hyphen. -/
def CharRange.ofHex (entry : String) : CharRange :=
  let chars := entry.toList
  let first := chars.takeWhile (· != '-')
  match chars.drop (first.length + 1) with
  | [] => ⟨hexValue first, hexValue first⟩
  | last => ⟨hexValue first, hexValue last⟩

/-- The entries of a table, which are parted by spaces and line ends. -/
def tableEntries (table : String) : List String :=
  ((table.splitOn "\n").flatMap fun line => line.splitOn " ").filter
    fun entry => !entry.isEmpty

/-- Reads a table of ascending ranges, written in hexadecimal. -/
def CharSet.ofHexTable (table : String) : CharSet :=
  ⟨(tableEntries table).map CharRange.ofHex⟩

/-- A set of characters that is looked up by name: its names, in lower-case
letters, and its table. -/
structure NamedTable where
  names : List String
  table : String

namespace NamedTable

/-- The set of a table. -/
def charSet (entry : NamedTable) : CharSet :=
  CharSet.ofHexTable entry.table

/-- Tells whether a table has this name. -/
def isNamed (name : String) (entry : NamedTable) : Bool :=
  entry.names.contains name

/-- The set of this name. -/
def charSet? (entries : List NamedTable) (name : String) : Option CharSet :=
  (entries.find? (isNamed name)).map charSet

end NamedTable

end Inflection.Text
