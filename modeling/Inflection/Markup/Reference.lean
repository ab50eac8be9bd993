import Inflection.Text.Split
import Inflection.Markup.Name

/-!
# References and line ends

In text and in attribute values, a reference between `&` and `;` stands for a
character: by its number, or by one of five names.  The characters that are
written as themselves are called literal.

A line end written as a carriage return, alone or before a line feed, is read as
one line feed in text and as one space in an attribute value.  A character that
a reference stands for is never part of a line end, and a carriage return right
before a reference is not one either, nor is one that is all the literal text
behind the last reference.
-/

namespace Inflection.Markup

open Inflection.Text

/-- A character of text, as it was written. -/
inductive Piece where
  | literal (char : Char)
  | reference (char : Char)
  deriving DecidableEq, Repr

/-- The character of this number.  The numbers of no character stand for the
replacement character, and those that do not fit into 32 bits for nothing. -/
def charNumbered? (number : Nat) : Option Char :=
  if 4294967296 ≤ number then none
  else if number < 0xD800 || (0xE000 ≤ number && number ≤ lastCodePoint) then
    some (Char.ofNat number)
  else
    some '\uFFFD'

/-- The value of decimal digits, if all are digits and there is one. -/
def decimal? (digits : List Char) : Option Nat :=
  if digits.isEmpty || !digits.all Char.isDigit then none
  else some (decimalValue digits)

/-- The value of hexadecimal digits, if all are digits and there is one. -/
def hexadecimal? (digits : List Char) : Option Nat :=
  if digits.isEmpty || !digits.all fun digit => (hexDigit? digit).isSome then
    none
  else
    some (hexValue digits)

/-- The character that a reference stands for, from what it has between
`&` and `;`. -/
def referred? (content : List Char) : Option Char :=
  match content with
  | '#' :: 'x' :: digits => do
    let char ← charNumbered? (← hexadecimal? digits)
    if isDocumentChar char then some char else none
  | '#' :: digits => do
    let char ← charNumbered? (← decimal? digits)
    if isDocumentChar char then some char else none
  | name =>
    match String.ofList name with
    | "quot" => some '"'
    | "amp" => some '&'
    | "apos" => some '\''
    | "lt" => some '<'
    | "gt" => some '>'
    | _ => none

/-- Resolves the references in a text.  `content` holds what was read of an open
reference, and `done` the pieces before, both in reverse. -/
def piecesFrom? : (content : Option (List Char)) → (done : List Piece) →
    List Char →
    Option (List Piece)
  | none, done, [] => some done.reverse
  | some _, _, [] => none
  | none, done, char :: rest =>
    if char == '&' then piecesFrom? (some []) done rest
    else piecesFrom? none (.literal char :: done) rest
  | some content, done, char :: rest =>
    if char == ';' then
      match referred? content.reverse with
      | none => none
      | some found => piecesFrom? none (.reference found :: done) rest
    else
      piecesFrom? (some (char :: content)) done rest

/-- Resolves the references in a text. -/
def pieces? (chars : List Char) : Option (List Piece) :=
  piecesFrom? none [] chars

/-- The characters of a text, with its line ends read as line feeds.  The first
argument tells whether a reference stands right before. -/
def textChars : Bool → List Piece → List Char
  | _, [] => []
  | _, .reference char :: rest => char :: textChars true rest
  | behindReference, [.literal char] =>
    [if char == '\r' && !behindReference then '\n' else char]
  | _, .literal char :: .literal next :: rest =>
    if char == '\r' then
      if next == '\n' then '\n' :: textChars false rest
      else '\n' :: textChars false (.literal next :: rest)
    else
      char :: textChars false (.literal next :: rest)
  | _, .literal char :: .reference next :: rest =>
    char :: textChars false (.reference next :: rest)

/-- The characters of an attribute value, with each line end and each tab read
as one space. -/
def valueChars : List Piece → List Char
  | [] => []
  | .reference char :: rest => char :: valueChars rest
  | .literal char :: rest =>
    if char == '\r' && rest.head? == some (.literal '\n') then valueChars rest
    else if char == '\t' || char == '\n' || char == '\r' then
      ' ' :: valueChars rest
    else char :: valueChars rest

/-- Reads the text between tags.  It must not hold the sign that ends a
literal section. -/
def readText? (chars : List Char) : Option String :=
  if (splitAt? [']', ']', '>'] chars).isSome then none
  else (pieces? chars).map fun pieces => String.ofList (textChars false pieces)

/-- Reads the text of a literal section, in which nothing is a reference. -/
def readLiteralText (chars : List Char) : String :=
  String.ofList (textChars false (chars.map Piece.literal))

/-- Reads an attribute value. -/
def readValue? (chars : List Char) : Option String :=
  (pieces? chars).map fun pieces => String.ofList (valueChars pieces)

end Inflection.Markup
