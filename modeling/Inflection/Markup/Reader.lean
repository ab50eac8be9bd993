import Inflection.Markup.Node
import Inflection.Markup.Token

/-!
# Reading documents

A document has one outermost element, with comments, processing instructions and
white space around it.  Tags must be balanced.  Document types are refused, so
there are no entities but the predefined ones.

The qualifier of a name stands for a namespace, which an attribute `xmlns:…`
of the element itself or of one around it declares.  A qualifier that is not
declared is refused, and so are two attributes of one element with the same
name in the same namespace.  The namespaces of the qualifiers `xml` and
`xmlns` are fixed.
-/

namespace Inflection.Markup

open Inflection.Text

/-- What the two fixed namespaces start with. -/
def fixedSpaceStart : String :=
  "http:" ++ "//www.w3.org"

/-- The namespace of the qualifier `xml`. -/
def xmlSpace : String :=
  fixedSpaceStart ++ "/XML/1998/namespace"

/-- The namespace of the declarations of namespaces. -/
def declarationSpace : String :=
  fixedSpaceStart ++ "/2000/xmlns/"

/-- The namespaces of some qualifiers, the innermost declaration first.  The
empty qualifier has the namespace of elements without a qualifier. -/
abbrev Scope :=
  List (String × String)

/-- Adds a declaration to those of the same element. -/
def declare? (declared : Scope) (qualifier space : String) : Option Scope :=
  if declared.any fun declaration => declaration.1 == qualifier then none
  else some ((qualifier, space) :: declared)

/-- Adds what an attribute declares to the declarations of its element, or
leaves them as they are. -/
def declareBy?
    (declared : Scope)
    (given : QualifiedName × String) :
    Option Scope :=
  let (name, space) := given
  if name.qualifier == "xmlns" then
    if space == declarationSpace ||
        (name.name == "xml") != (space == xmlSpace) then
      none
    else if declared.any fun declaration => declaration.1 == name.name then none
    else if space == xmlSpace then some declared
    else declare? declared name.name space
  else if name.name == "xmlns" then
    if space == xmlSpace || space == declarationSpace then none
    else declare? declared "" space
  else
    some declared

/-- Tells whether an attribute declares a namespace. -/
def isDeclaration (given : QualifiedName × String) : Bool :=
  given.1.qualifier == "xmlns" || given.1.name == "xmlns"

/-- The namespace that a qualifier stands for: none for an empty qualifier that
is not declared. -/
def Scope.space?
    (scope : Scope)
    (qualifier : String) :
    Option (Option String) :=
  match List.lookup qualifier scope with
  | some space => some (some space)
  | none => if qualifier == "" then some none else none

/-- The namespace of an attribute.  One without a qualifier has none. -/
def Scope.attributeSpace?
    (scope : Scope)
    (qualifier : String) :
    Option (Option String) :=
  if qualifier == "xml" then some (some xmlSpace)
  else if qualifier == "" then some none
  else scope.space? qualifier

/-- Resolves the names of attributes, which must differ. -/
def resolveAttributes? (scope : Scope) :
    List Attribute → List (QualifiedName × String) → Option (List Attribute)
  | resolved, [] => some resolved.reverse
  | resolved, (name, value) :: rest =>
    match scope.attributeSpace? name.qualifier with
    | none => none
    | some space =>
      if resolved.any fun other =>
        other.space == space && other.name == name.name then
        none
      else
        resolveAttributes? scope (⟨space, name.name, value⟩ :: resolved) rest

/-- Resolves the names of a start tag, in the scope of the element around it:
the tag, and the scope of the elements inside. -/
def resolveTag?
    (scope : Scope)
    (name : QualifiedName)
    (attributes : List (QualifiedName × String)) :
    Option (Tag × Scope) := do
  if name.qualifier == "xmlns" then none
  else
    let declared ← attributes.foldlM declareBy? []
    let scope := declared ++ scope
    let resolved ← resolveAttributes? scope [] (attributes.filter fun given =>
      !isDeclaration given)
    let space ← scope.space? name.qualifier
    some (⟨space, name.name, resolved⟩, scope)

/-- An element that is still open, with its nodes in reverse. -/
structure OpenElement where
  name : QualifiedName
  tag : Tag
  scope : Scope
  nodes : List Node

/-- Adds a node to an open element.  Text that follows text joins it. -/
def OpenElement.add (parent : OpenElement) (node : Node) : OpenElement :=
  match node, parent.nodes with
  | .text content, .text before :: nodes =>
    { parent with nodes := .text (before ++ content) :: nodes }
  | _, nodes => { parent with nodes := node :: nodes }

/-- How far a document has been read. -/
inductive Progress where
  | beforeRoot
  | inside (innermost : OpenElement) (outer : List OpenElement)
  | afterRoot (root : Element)

/-- Goes on behind an element that is complete. -/
def Progress.complete (element : Element) : List OpenElement → Progress
  | [] => .afterRoot element
  | parent :: outer => .inside (parent.add element.toNode) outer

/-- Goes on behind a start tag. -/
def Progress.start?
    (outer : List OpenElement)
    (name : QualifiedName)
    (attributes : List (QualifiedName × String))
    (closed : Bool) :
    Option Progress := do
  let scope := match outer with
    | [] => []
    | parent :: _ => parent.scope
  let (tag, scope) ← resolveTag? scope name attributes
  if closed then some (.complete ⟨tag, []⟩ outer)
  else some (.inside ⟨name, tag, scope, []⟩ outer)

/-- Goes on behind a token outside of the outermost element. -/
def Progress.misc? (progress : Progress) : Token → Option Progress
  | .comment _ => some progress
  | .instruction _ _ => some progress
  | .text raw => if raw.all isSpace then some progress else none
  | _ => none

/-- Goes on behind a token. -/
def Progress.step? : Progress → Token → Option Progress
  | .beforeRoot, .startTag name attributes closed =>
    Progress.start? [] name attributes closed
  | .inside innermost outer, token =>
    match token with
    | .startTag name attributes closed =>
      Progress.start? (innermost :: outer) name attributes closed
    | .endTag name =>
      if name == innermost.name then
        some (.complete ⟨innermost.tag, innermost.nodes.reverse⟩ outer)
      else
        none
    | .text raw =>
      (readText? raw).map fun content =>
        .inside (innermost.add (.text content)) outer
    | .literal content =>
      some (.inside (innermost.add (.text (readLiteralText content))) outer)
    | .comment content =>
      some (.inside (innermost.add (.comment (String.ofList content))) outer)
    | .instruction target content =>
      some (.inside
        (innermost.add (.instruction target (String.ofList content))) outer)
  | progress, token => progress.misc? token

/-- Reads a document and gives its outermost element, if the document is
well formed. -/
def readDocument? (source : String) : Option Element := do
  let chars := source.toList
  if chars.all isDocumentChar then
    let chars := if chars.head? == some '\uFEFF' then chars.tail else chars
    let tokens ← tokens? (← skipDeclaration chars)
    match ← tokens.foldlM Progress.step? .beforeRoot with
    | .afterRoot root => some root
    | _ => none
  else
    none

end Inflection.Markup
