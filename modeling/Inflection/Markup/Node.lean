/-!
# Document trees

A document is a tree of elements.  Between the tags of an element stand further
elements, text, comments and processing instructions.  Two pieces of text never
stand side by side in a document that was read: only a comment, an instruction
or an element parts them.

Names of elements and attributes may belong to a namespace.  Elements are asked
for by their name alone, attributes by a name that belongs to no namespace.
-/

namespace Inflection.Markup

/-- An attribute of an element. -/
structure Attribute where
  space : Option String
  name : String
  value : String
  deriving DecidableEq, Repr

/-- What the start tag of an element says. -/
structure Tag where
  space : Option String
  name : String
  attributes : List Attribute
  deriving DecidableEq, Repr

/-- A node of a document. -/
inductive Node where
  | element (tag : Tag) (children : List Node)
  | text (content : String)
  | comment (content : String)
  | instruction (target content : String)

/-- An element of a document. -/
structure Element where
  tag : Tag
  children : List Node

/-- The element that a node is, if it is one. -/
def Node.element? : Node → Option Element
  | .element tag children => some ⟨tag, children⟩
  | _ => none

mutual

/-- The text of a node and of all nodes beneath it, in document order. -/
def Node.fullText : Node → String
  | .element _ children => textBeneath children
  | .text content => content
  | .comment _ => ""
  | .instruction _ _ => ""

/-- The text of some nodes and of all nodes beneath them, in document order. -/
def textBeneath : List Node → String
  | [] => ""
  | node :: rest => node.fullText ++ textBeneath rest

end

namespace Element

/-- The element as a node. -/
def toNode (element : Element) : Node :=
  .element element.tag element.children

/-- The name of an element, whatever its namespace. -/
def name (element : Element) : String :=
  element.tag.name

/-- The value of the attribute with this name and no namespace. -/
def attribute? (element : Element) (name : String) : Option String :=
  (element.tag.attributes.find? fun given =>
    given.space.isNone && given.name == name).map Attribute.value

/-- The elements directly beneath an element. -/
def elements (element : Element) : List Element :=
  element.children.filterMap Node.element?

/-- The elements of one name directly beneath an element. -/
def elementsNamed (element : Element) (name : String) : List Element :=
  element.elements.filter fun child => child.name == name

/-- The text that an element starts with, if a text is its first node. -/
def leadingText? (element : Element) : Option String :=
  match element.children with
  | .text content :: _ => some content
  | _ => none

/-- All text beneath an element. -/
def fullText (element : Element) : String :=
  textBeneath element.children

end Element

end Inflection.Markup
