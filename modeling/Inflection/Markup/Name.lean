import Inflection.Text.CharSet

/-!
# Characters and names of markup

Which characters a document may hold, and which of them make up names.  A
name may have a qualifier in front of a colon; the part behind the colon
must not be empty.
-/

namespace Inflection.Markup

open Inflection.Text

/-- Tells whether a document may hold a character. -/
def isDocumentChar (char : Char) : Bool :=
  if char.toNat < 0x20 then char == '\t' || char == '\n' || char == '\r'
  else char.toNat != 0xFFFE && char.toNat != 0xFFFF

/-- Tells whether a character is white space between the parts of markup. -/
def isSpace (char : Char) : Bool :=
  char == ' ' || char == '\t' || char == '\n' || char == '\r'

/-- The characters that a name can start with. -/
def nameStarts : CharSet :=
  ⟨[⟨0x41, 0x5A⟩, ⟨0x5F, 0x5F⟩, ⟨0x61, 0x7A⟩, ⟨0xC0, 0xD6⟩, ⟨0xD8, 0xF6⟩,
    ⟨0xF8, 0x2FF⟩, ⟨0x370, 0x37D⟩, ⟨0x37F, 0x1FFF⟩, ⟨0x200C, 0x200D⟩,
    ⟨0x2070, 0x218F⟩, ⟨0x2C00, 0x2FEF⟩, ⟨0x3001, 0xD7FF⟩, ⟨0xF900, 0xFDCF⟩,
    ⟨0xFDF0, 0xFFFD⟩, ⟨0x10000, 0xEFFFF⟩]⟩

/-- The characters that a name can hold behind its start. -/
def nameChars : CharSet :=
  ⟨[⟨0x2D, 0x2E⟩, ⟨0x30, 0x39⟩, ⟨0x41, 0x5A⟩, ⟨0x5F, 0x5F⟩, ⟨0x61, 0x7A⟩,
    ⟨0xB7, 0xB7⟩, ⟨0xC0, 0xD6⟩, ⟨0xD8, 0xF6⟩, ⟨0xF8, 0x37D⟩, ⟨0x37F, 0x1FFF⟩,
    ⟨0x200C, 0x200D⟩, ⟨0x203F, 0x2040⟩, ⟨0x2070, 0x218F⟩, ⟨0x2C00, 0x2FEF⟩,
    ⟨0x3001, 0xD7FF⟩, ⟨0xF900, 0xFDCF⟩, ⟨0xFDF0, 0xFFFD⟩, ⟨0x10000, 0xEFFFF⟩]⟩

/-- A name with its qualifier, which is empty if there is none. -/
structure QualifiedName where
  qualifier : String
  name : String
  deriving DecidableEq, Repr

/-- Tells whether a name starts with a character that can start one. -/
def startsName (chars : List Char) : Bool :=
  chars.head?.any nameStarts.contains

/-- Reads a name with an optional qualifier. -/
def readQualifiedName
    (chars : List Char) :
    Option (QualifiedName × List Char) :=
  let (run, rest) :=
    chars.span fun char => char == ':' || nameChars.contains char
  match run.span (· != ':') with
  | (name, []) =>
    if startsName name then some (⟨"", String.ofList name⟩, rest) else none
  | (qualifier, _ :: name) =>
    if (qualifier.isEmpty || startsName qualifier) && startsName name &&
      !name.contains ':' then
      some (⟨String.ofList qualifier, String.ofList name⟩, rest)
    else
      none

/-- Reads a name in which a colon is nothing special. -/
def readPlainName (chars : List Char) : Option (String × List Char) :=
  let (run, rest) :=
    chars.span fun char => char == ':' || nameChars.contains char
  if run.head? == some ':' || startsName run then some (String.ofList run, rest)
  else none

end Inflection.Markup
