import Inflection.Markup.Reference

/-!
# Tokens of markup

A document is first cut into tokens: tags, stretches of text between them,
literal sections, comments and processing instructions.  Text stays as it was
written, since what it may hold depends on whether it stands inside the
outermost element.
-/

namespace Inflection.Markup

open Inflection.Text

/-- A token of a document. -/
inductive Token where
  | startTag
      (name : QualifiedName)
      (attributes : List (QualifiedName × String))
      (closed : Bool)
  | endTag (name : QualifiedName)
  | text (raw : List Char)
  | literal (content : List Char)
  | comment (content : List Char)
  | instruction (target : String) (content : List Char)

/-- Drops white space at the start. -/
def dropSpace (chars : List Char) : List Char :=
  chars.dropWhile isSpace

/-- Reads an equals sign and a quoted value, which must not hold `<`. -/
def readQuoted (chars : List Char) : Option (List Char × List Char) :=
  match dropSpace chars with
  | '=' :: rest =>
    match dropSpace rest with
    | quote :: rest =>
      if quote == '"' || quote == '\'' then
        match rest.span fun char => char != quote && char != '<' with
        | (raw, char :: rest) =>
          if char == quote then some (raw, rest) else none
        | _ => none
      else
        none
    | [] => none
  | _ => none

/-- Reads the attributes of a start tag and its end: the attributes,
whether the element is closed with the tag, and the rest.  White space
precedes each attribute. -/
def readAttributes :
    Nat → List (QualifiedName × String) → List Char →
      Option (List (QualifiedName × String) × Bool × List Char)
  | 0, _, _ => none
  | rounds + 1, attributes, chars =>
    match dropSpace chars with
    | '/' :: '>' :: rest => some (attributes.reverse, true, rest)
    | '>' :: rest => some (attributes.reverse, false, rest)
    | rest =>
      if chars.head?.any isSpace then do
        let (name, rest) ← readQualifiedName rest
        let (raw, rest) ← readQuoted rest
        let value ← readValue? raw
        readAttributes rounds ((name, value) :: attributes) rest
      else
        none

/-- Reads a comment, from the character behind its start on. -/
def readComment (chars : List Char) : Option (Token × List Char) := do
  let (content, rest) ← splitAt? ['-', '-', '>'] chars
  if (splitAt? ['-', '-'] content).isSome || content.getLast? == some '-' then
    none
  else
    some (.comment content, rest)

/-- Reads a processing instruction, from the character behind its start on.  The
declaration of a document is none. -/
def readInstruction (chars : List Char) : Option (Token × List Char) := do
  if ("xml ".toList).isPrefixOf chars then none
  else
    let (target, rest) ← readPlainName chars
    let (content, rest) ← splitAt? ['?', '>'] (dropSpace rest)
    some (.instruction target content, rest)

/-- Reads an end tag, from the character behind its start on. -/
def readEndTag (chars : List Char) : Option (Token × List Char) := do
  let (name, rest) ← readQualifiedName chars
  match dropSpace rest with
  | '>' :: rest => some (.endTag name, rest)
  | _ => none

/-- Reads a start tag, from the character behind its start on. -/
def readStartTag
    (rounds : Nat)
    (chars : List Char) :
    Option (Token × List Char) := do
  let (name, rest) ← readQualifiedName chars
  let (attributes, closed, rest) ← readAttributes rounds [] rest
  some (.startTag name attributes closed, rest)

/-- Reads the token behind a `<`. -/
def readMarkup
    (rounds : Nat)
    (chars : List Char) :
    Option (Token × List Char) :=
  match after? "!--".toList chars with
  | some rest => readComment rest
  | none =>
    match after? "![CDATA[".toList chars with
    | some rest =>
      (splitAt? [']', ']', '>'] rest).map fun (content, rest) =>
        (.literal content, rest)
    | none =>
      match chars with
      | '?' :: rest => readInstruction rest
      | '/' :: rest => readEndTag rest
      | _ => readStartTag rounds chars

/-- Cuts a document into tokens; `tokens` holds those before, in reverse.  Each
round reads at least one character. -/
def tokensFrom? : Nat → List Token → List Char → Option (List Token)
  | _, tokens, [] => some tokens.reverse
  | 0, _, _ :: _ => none
  | rounds + 1, tokens, '<' :: rest =>
    match readMarkup rounds rest with
    | none => none
    | some (token, rest) => tokensFrom? rounds (token :: tokens) rest
  | rounds + 1, tokens, char :: rest =>
    let (raw, rest) := rest.span (· != '<')
    tokensFrom? rounds (.text (char :: raw) :: tokens) rest

/-- Cuts a document into tokens. -/
def tokens? (chars : List Char) : Option (List Token) :=
  tokensFrom? chars.length [] chars

/-- Skips white space, of which there must be some unless the
declaration ends here. -/
def skipDeclarationSpace (chars : List Char) : Option (List Char) :=
  if chars.head?.any isSpace then some (dropSpace chars)
  else if ['?', '>'].isPrefixOf chars then some chars
  else none

/-- Skips an attribute of the declaration. -/
def skipDeclarationAttribute (chars : List Char) : Option (List Char) := do
  let (_, rest) ← readQualifiedName chars
  let (_, rest) ← readQuoted rest
  some rest

/-- Skips an attribute of the declaration if it starts with this name, and the
white space behind. -/
def skipOptionalAttribute
    (name : String)
    (chars : List Char) :
    Option (List Char) :=
  if name.toList.isPrefixOf chars then
    skipDeclarationAttribute chars >>= skipDeclarationSpace
  else
    some chars

/-- Skips the declaration of a document, if it starts with one.  The version
must be given; the encoding and whether the document stands alone may follow. -/
def skipDeclaration (chars : List Char) : Option (List Char) :=
  match after? "<?xml ".toList chars with
  | none => some chars
  | some rest => do
    let rest := dropSpace rest
    if "version".toList.isPrefixOf rest then
      let rest ← skipDeclarationAttribute rest
      let rest ← skipDeclarationSpace rest
      let rest ← skipOptionalAttribute "encoding" rest
      let rest ←
        if "standalone".toList.isPrefixOf rest then
          skipDeclarationAttribute rest else some rest
      after? ['?', '>'] (dropSpace rest)
    else
      none

end Inflection.Markup
