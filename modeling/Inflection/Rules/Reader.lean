import Inflection.Markup.Reader
import Inflection.Rules.Book

/-!
# Reading rule books

A rule file is a document with the outermost element `verbs`.  Beneath it,
`meta` has the declarations of the language, and each `verb` and `verbset` is an
entry.  Elements that a level does not know are skipped, and so are comments,
stray text and attributes that are not asked for.

Reading stops at the first defect.  An entry is looked at from its name inward
and then outward: the levels beneath a level come before its own modifiers.
-/

namespace Inflection.Rules

open Inflection.Text
open Inflection.Markup (Element readDocument?)

/-- The value of an attribute that must be there. -/
def requiredAttribute
    (element : Element)
    (name : String) :
    Except RuleFileError String :=
  match element.attribute? name with
  | none => .error (.lacksAttribute element.name name)
  | some value => .ok value

/-- Compiles a pattern. -/
def compilePattern (source : String) : Except RuleFileError Pattern :=
  match Pattern.ofSource? source with
  | none => .error (.invalidPattern source)
  | some pattern => .ok pattern

/-- Reads a replacement. -/
def readReplacement (element : Element) : Except RuleFileError Replacement := do
  let modeName ← requiredAttribute element "match"
  match MatchMode.named? modeName with
  | none => .error (.noMatchMode modeName)
  | some mode =>
    let source ← requiredAttribute element "search"
    let search ← compilePattern source
    .ok ⟨mode, search, (element.attribute? "replace").getD ""⟩

/-- The first element of one name directly beneath an element. -/
def firstNamed? (element : Element) (name : String) : Option Element :=
  (element.elementsNamed name).head?

/-- Reads the modifiers of a level.  Of each, the first directly beneath the
level counts. -/
def readModifiers (level : Element) : Except RuleFileError Modifiers := do
  let replacement ←
    match firstNamed? level "mod" with
    | none => .ok none
    | some element => (readReplacement element).map some
  .ok
    { prepend := (firstNamed? level "prepend").map Element.fullText
      append := (firstNamed? level "append").map Element.fullText
      replacement := replacement
      removed := (firstNamed? level "endlength").map fun element =>
        countAtStart element.fullText }

/-- Reads the levels of one name beneath an element, each under its `id`. -/
def readLevels {Level : Type}
    (read : Element → Except RuleFileError Level)
    (merge : Level → Level → Level)
    (elements : List Element) :
    Except RuleFileError (Keyed Level) :=
  elements.foldlM
    (fun levels element => do
      let id ← requiredAttribute element "id"
      let level ← read element
      .ok (levels.put merge id level))
    .empty

/-- Tells whether a level is marked as ignored; the mark is an attribute,
whatever its value. -/
def isIgnored (level : Element) : Bool :=
  (level.attribute? "ignore").isSome

/-- Reads the rules for a quantity. -/
def readQuantity (element : Element) : Except RuleFileError QuantityRules := do
  let modifiers ← readModifiers element
  .ok ⟨isIgnored element, modifiers⟩

/-- Reads the rules for a person. -/
def readPerson (element : Element) : Except RuleFileError PersonRules := do
  let quantities ←
    readLevels readQuantity QuantityRules.merge
      (element.elementsNamed "paradigm")
  let modifiers ← readModifiers element
  .ok ⟨isIgnored element, modifiers, quantities⟩

/-- Reads the rules for a form. -/
def readForm (element : Element) : Except RuleFileError FormRules := do
  let persons ←
    readLevels readPerson PersonRules.merge (element.elementsNamed "pdgmgroup")
  let modifiers ← readModifiers element
  .ok ⟨modifiers, persons⟩

/-- The attribute that names an entry. -/
def EntryKind.nameAttribute : EntryKind → String
  | .verb => "word"
  | .verbSet => "id"

/-- Reads an entry. -/
def readEntry
    (kind : EntryKind)
    (element : Element) :
    Except RuleFileError (Entry kind) := do
  let name ← requiredAttribute element kind.nameAttribute
  let forms ←
    readLevels readForm FormRules.merge (element.elementsNamed "group")
  .ok ⟨name, element.attribute? "inherit", forms⟩

/-- Reads the name of a form: the text that its element starts with, without
blanks around it. -/
def readFormName (element : Element) : Except RuleFileError String :=
  let name := trim ((element.leadingText?.getD "").toList)
  if name.isEmpty then .error (.lacksText element.name)
  else .ok (String.ofList name)

/-- Reads the declaration of a paradigm. -/
def readParadigm (element : Element) : Except RuleFileError Paradigm := do
  let person ← requiredAttribute element "person"
  let quantity ← requiredAttribute element "quant"
  .ok ⟨person, quantity⟩

/-- Reads a fallback. -/
def readFallback (element : Element) : Except RuleFileError Fallback := do
  let source ← requiredAttribute element "regex"
  let target ← requiredAttribute element "ref"
  let pattern ← compilePattern source
  .ok ⟨pattern, target⟩

namespace RuleBook

/-- Adds a list of declarations to a book. -/
def addDeclarations
    (book : RuleBook)
    (element : Element) :
    Except RuleFileError RuleBook :=
  match element.name with
  | "forms" => do
    let forms ← (element.elementsNamed "form").mapM readFormName
    .ok (book.addForms forms)
  | "paradigms" => do
    let paradigms ← (element.elementsNamed "paradigm").mapM readParadigm
    .ok (book.addParadigms paradigms)
  | "fallbacks" => do
    let fallbacks ← (element.elementsNamed "fallback").mapM readFallback
    .ok (book.addFallbacks fallbacks)
  | _ => .ok book

/-- Adds what an element directly beneath the outermost one says. -/
def addElement
    (book : RuleBook)
    (element : Element) :
    Except RuleFileError RuleBook :=
  match element.name with
  | "meta" => element.elements.foldlM addDeclarations book
  | "verbset" => do
    let entry ← readEntry .verbSet element
    book.addEntry entry
  | "verb" => do
    let entry ← readEntry .verb element
    book.addEntry entry
  | _ => .ok book

/-- Reads a rule book from the outermost element of its document. -/
def ofElement (root : Element) : Except RuleFileError RuleBook :=
  if root.name = "verbs" then root.elements.foldlM addElement .empty
  else .error (.wrongRoot root.name)

/-- Reads a rule book from the text of its file. -/
def ofText (text : String) : Except RuleFileError RuleBook :=
  match readDocument? text with
  | none => .error .notWellFormed
  | some root => ofElement root

end RuleBook

end Inflection.Rules
