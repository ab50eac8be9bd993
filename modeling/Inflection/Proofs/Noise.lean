import Inflection.Proofs.DocumentOrder

/-!
# Noise in a rule file

Reading a rule file asks each element for some attributes and for elements of
some names beneath it, and a few elements for their text.  What it asks for
depends on the role that the element plays, and all roles are listed here.
Everything else is noise: stray text, comments and instructions, elements of
other names with all that is in them, a modifier behind another of its name,
other attributes, and namespaces.

A document comes to the same without its noise, to the same book or to
the same error.
-/

namespace Inflection.Rules

open Inflection.Text
open Inflection.Markup (Attribute Element Node Tag textBeneath)

/-! ## Roles -/

/-- The roles that elements play in a rule file. -/
inductive Role where
  | document
  | declarations
  | formNames
  | paradigms
  | fallbacks
  | formName
  | paradigm
  | fallback
  | entry (kind : EntryKind)
  | form
  | person
  | quantity
  | affix
  | replacement
  deriving DecidableEq, Repr

namespace Role

/-- The attributes that an element is asked for. -/
def attributes : Role → List String
  | .paradigm => ["person", "quant"]
  | .fallback => ["regex", "ref"]
  | .entry kind => [kind.nameAttribute, "inherit"]
  | .form => ["id"]
  | .person => ["id", "ignore"]
  | .quantity => ["id", "ignore"]
  | .replacement => ["match", "search", "replace"]
  | _ => []

/-- The names of the modifiers of a level, and their roles. -/
def modifiers : List (String × Role) :=
  [("prepend", .affix), ("append", .affix), ("endlength", .affix),
    ("mod", .replacement)]

/-- The names of the elements that are asked for beneath another, and
their roles. -/
def asks : Role → List (String × Role)
  | .document =>
    [("meta", .declarations), ("verbset", .entry .verbSet),
      ("verb", .entry .verb)]
  | .declarations =>
    [("forms", .formNames), ("paradigms", .paradigms),
      ("fallbacks", .fallbacks)]
  | .formNames => [("form", .formName)]
  | .paradigms => [("paradigm", .paradigm)]
  | .fallbacks => [("fallback", .fallback)]
  | .entry _ => [("group", .form)]
  | .form => ("pdgmgroup", .person) :: modifiers
  | .person => ("paradigm", .quantity) :: modifiers
  | .quantity => modifiers
  | _ => []

/-- The role that an element of this name plays beneath another, if it
is asked for. -/
def beneath? (role : Role) (name : String) : Option Role :=
  role.asks.lookup name

/-- Tells that a level asks only for the first element of a name that
plays this role. -/
def isOnce : Role → Bool
  | .affix => true
  | .replacement => true
  | _ => false

/-- A tag without a namespace, and with those attributes alone that
are asked for. -/
def bareTag (role : Role) (tag : Tag) : Tag where
  space := none
  name := tag.name
  attributes := tag.attributes.filter fun given =>
    given.space.isNone && role.attributes.contains given.name

mutual

/-- A node that stays whole, but is asked for no attribute at all. -/
def untagged : Node → Node
  | .element tag children =>
    .element ⟨none, tag.name, []⟩ (allUntagged children)
  | .text content => .text content
  | .comment content => .comment content
  | .instruction target content => .instruction target content

/-- Nodes that stay whole, but are asked for no attribute at all. -/
def allUntagged : List Node → List Node
  | [] => []
  | node :: rest => untagged node :: allUntagged rest

end

/-- The content of an element without noise, from the elements that are asked
for.  An affix is asked for all its text.  From the name of a form no node is
taken, since its text counts only if it stands first. -/
def bareContent
    (role : Role)
    (element : Element)
    (askedFor : List Node) :
    List Node :=
  match role with
  | .formName => allUntagged element.children
  | .affix => [.text element.fullText]
  | _ => askedFor

/-- The role that an element of this name plays beneath another, unless it is
not asked for.  The names of those in front of it are given. -/
def asksFor?
    (role : Role)
    (passed : List String)
    (name : String) :
    Option Role :=
  match role.beneath? name with
  | none => none
  | some child =>
    if child.isOnce = true ∧ name ∈ passed then none else some child

mutual

/-- A node that plays a role, without noise. -/
def bareNode (role : Role) : Node → Node
  | .element tag children =>
    .element (role.bareTag tag)
      (role.bareContent ⟨tag, children⟩ (bareNodes role [] children))
  | .text content => .text content
  | .comment content => .comment content
  | .instruction target content => .instruction target content

/-- The nodes beneath an element that are asked for, without noise. -/
def bareNodes (role : Role) (passed : List String) : List Node → List Node
  | [] => []
  | node :: rest =>
    match node.element? with
    | none => bareNodes role passed rest
    | some element =>
      match role.asksFor? passed element.name with
      | none => bareNodes role passed rest
      | some child =>
        bareNode child node :: bareNodes role (element.name :: passed) rest

end

/-- An element without noise. -/
def bare (role : Role) (element : Element) : Element :=
  ⟨role.bareTag element.tag,
    role.bareContent element (role.bareNodes [] element.children)⟩

end Role

/-- A document without noise. -/
def withoutNoise (root : Element) : Element :=
  Role.document.bare root

/-! ## What is asked for stays -/

namespace Role

section

variable
    {role child : Role}
    {element : Element}
    {name : String}

@[simp]
theorem name_bare
    (role : Role)
    (element : Element) :
    (role.bare element).name = element.name :=
  rfl

theorem attribute?_bare (asked : name ∈ role.attributes) (element : Element) :
    (role.bare element).attribute? name = element.attribute? name := by
  have kept :
      (fun given : Attribute =>
          (given.space.isNone && role.attributes.contains given.name) &&
            (given.space.isNone && given.name == name)) =
        fun given => given.space.isNone && given.name == name := by
    funext given
    by_cases isNamed : given.name = name
    · simp [isNamed, asked]
    · simp [isNamed]
  show Option.map Attribute.value
      (List.find? _ (List.filter _ element.tag.attributes)) = _
  rw [List.find?_filter, Element.attribute?]
  simp only [← Bool.and_eq_true, Bool.decide_eq_true, kept]

theorem requiredAttribute_bare
    (asked : name ∈ role.attributes)
    (element : Element) :
    requiredAttribute (role.bare element) name =
      requiredAttribute element name := by
  rw [requiredAttribute, requiredAttribute, attribute?_bare asked, name_bare]

/-- The elements beneath an element that are asked for, without noise. -/
def bareElements
    (role : Role)
    (passed : List String) :
    List Element → List Element
  | [] => []
  | element :: rest =>
    match role.asksFor? passed element.name with
    | none => bareElements role passed rest
    | some child =>
      child.bare element :: bareElements role (element.name :: passed) rest

theorem filterMap_bareNodes
    (role : Role)
    (passed : List String)
    (nodes : List Node) :
    (role.bareNodes passed nodes).filterMap Node.element? =
      role.bareElements passed (nodes.filterMap Node.element?) := by
  induction nodes generalizing passed with
  | nil => rfl
  | cons node rest ih =>
    cases node with
    | element tag children =>
      have first :
          (Node.element tag children :: rest).filterMap Node.element? =
            ⟨tag, children⟩ :: rest.filterMap Node.element? := rfl
      rw [first, bareElements, bareNodes]
      simp only [Node.element?]
      cases role.asksFor? passed (Element.mk tag children).name with
      | none => exact ih passed
      | some child => exact congrArg (child.bare ⟨tag, children⟩ :: ·) (ih _)
    | text content => exact ih passed
    | comment content => exact ih passed
    | instruction target content => exact ih passed

/-- A role that is asked for elements is not asked for text. -/
theorem elements_bare
    (asked : role.beneath? name = some child)
    (element : Element) :
    (role.bare element).elements = role.bareElements [] element.elements := by
  have content :
      role.bareContent element (role.bareNodes [] element.children) =
        role.bareNodes [] element.children := by
    cases role with
    | formName => cases asked
    | affix => cases asked
    | _ => rfl
  show (role.bareContent element _).filterMap Node.element? = _
  rw [content, filterMap_bareNodes]
  rfl

theorem mem_asks
    (asked : role.beneath? name = some child) :
    (name, child) ∈ role.asks := by
  rcases List.lookup_eq_some_iff.mp asked with ⟨before, after, among, -⟩
  rw [among]
  exact List.mem_append_right before List.mem_cons_self

theorem asksFor?_of_not_mem
    {passed : List String}
    (asked : role.beneath? name = some child)
    (isNew : name ∉ passed) :
    role.asksFor? passed name = some child := by
  simp [asksFor?, asked, isNew]

theorem asksFor?_of_not_isOnce
    (asked : role.beneath? name = some child)
    (again : child.isOnce = false)
    (passed : List String) :
    role.asksFor? passed name = some child := by
  simp [asksFor?, asked, again]

/-- All elements of a name stay that a level asks for again and again. -/
theorem filter_bareElements
    (asked : role.beneath? name = some child)
    (again : child.isOnce = false)
    (passed : List String)
    (elements : List Element) :
    ((role.bareElements passed elements).filter fun element =>
      element.name == name) =
      (elements.filter fun element => element.name == name).map child.bare := by
  induction elements generalizing passed with
  | nil => rfl
  | cons element rest ih =>
    rw [bareElements]
    by_cases isNamed : element.name = name
    · rw [isNamed, asksFor?_of_not_isOnce asked again]
      simp [isNamed, ih]
    · cases role.asksFor? passed element.name with
      | none => simp [isNamed, ih]
      | some other => simp [isNamed, ih]

/-- The first element of a name stays that a level asks for. -/
theorem head?_bareElements
    (asked : role.beneath? name = some child)
    {passed : List String}
    (isNew : name ∉ passed)
    (elements : List Element) :
    ((role.bareElements passed elements).filter fun element =>
      element.name == name).head? =
      (elements.filter fun element =>
        element.name == name).head?.map child.bare := by
  induction elements generalizing passed with
  | nil => rfl
  | cons element rest ih =>
    rw [bareElements]
    by_cases isNamed : element.name = name
    · rw [isNamed, asksFor?_of_not_mem asked isNew]
      simp [isNamed]
    · have stillNew : name ∉ element.name :: passed := by
        simp [isNew, Ne.symm isNamed]
      cases role.asksFor? passed element.name with
      | none => simp [isNamed, ih isNew]
      | some other => simp [isNamed, ih stillNew]

/-- Steps that skip what is not asked for come to the same without noise. -/
theorem foldlM_bareElements
    {State : Type}
    {step : State → Element → Except RuleFileError State}
    (again : ∀ entry ∈ role.asks, entry.2.isOnce = false)
    (skips : ∀ state element,
      role.beneath? element.name = none → step state element = .ok state)
    (same : ∀ state element child, role.beneath? element.name = some child →
      step state (child.bare element) = step state element)
    (passed : List String)
    (elements : List Element)
    (state : State) :
    (role.bareElements passed elements).foldlM step state =
      elements.foldlM step state := by
  induction elements generalizing passed state with
  | nil => rfl
  | cons element rest ih =>
    rw [bareElements, List.foldlM_cons]
    cases asked : role.beneath? element.name with
    | none =>
      rw [asksFor?, asked, skips state element asked]
      exact ih passed state
    | some child =>
      rw [asksFor?_of_not_isOnce asked
        (again (element.name, child) (mem_asks asked))]
      rw [List.foldlM_cons, same state element child asked]
      cases step state element with
      | error failure => rfl
      | ok next => exact ih _ next

end

section

variable
    {role child : Role}
    {name : String}
    (asked : role.beneath? name = some child)

include asked

theorem elementsNamed_bare (again : child.isOnce = false) (element : Element) :
    (role.bare element).elementsNamed name =
      (element.elementsNamed name).map child.bare := by
  rw [Element.elementsNamed, elements_bare asked,
    filter_bareElements asked again]
  rfl

theorem firstNamed?_bare (element : Element) :
    firstNamed? (role.bare element) name =
      (firstNamed? element name).map child.bare := by
  rw [firstNamed?, Element.elementsNamed, elements_bare asked,
    head?_bareElements asked List.not_mem_nil]
  rfl

end

end Role

/-! ## Reading without noise -/

open Role

theorem fullText_bare
    (element : Element) :
    (Role.affix.bare element).fullText = element.fullText := by
  show textBeneath [.text element.fullText] = element.fullText
  simp [textBeneath, Node.fullText]

theorem readReplacement_bare (element : Element) :
    readReplacement (Role.replacement.bare element) =
      readReplacement element := by
  have asked : ∀ {name}, name ∈ ["match", "search", "replace"] →
      requiredAttribute (Role.replacement.bare element) name =
        requiredAttribute element name :=
    fun member => requiredAttribute_bare member element
  have replace : (Role.replacement.bare element).attribute? "replace" =
      element.attribute? "replace" :=
    attribute?_bare (by decide) element
  rw [readReplacement, readReplacement, asked (by decide), asked (by decide),
    replace]

/-- The modifiers of a level are the same without noise, if it is asked
for modifiers. -/
theorem readModifiers_bare
    (role : Role)
    (asked : ∀ entry ∈ modifiers, role.beneath? entry.1 = some entry.2)
    (element : Element) :
    readModifiers (role.bare element) = readModifiers element := by
  have prepend : firstNamed? (role.bare element) "prepend" = _ :=
    firstNamed?_bare (asked ("prepend", .affix) (by decide)) element
  have append : firstNamed? (role.bare element) "append" = _ :=
    firstNamed?_bare (asked ("append", .affix) (by decide)) element
  have endlength : firstNamed? (role.bare element) "endlength" = _ :=
    firstNamed?_bare (asked ("endlength", .affix) (by decide)) element
  have mod : firstNamed? (role.bare element) "mod" = _ :=
    firstNamed?_bare (asked ("mod", .replacement) (by decide)) element
  have texts (first : Option Element) :
      (first.map Role.affix.bare).map Element.fullText =
        first.map Element.fullText := by
    rw [Option.map_map]
    exact congrArg (Option.map · first) (funext fullText_bare)
  have counts (first : Option Element) :
      ((first.map Role.affix.bare).map fun affix =>
        countAtStart affix.fullText) =
        first.map fun affix => countAtStart affix.fullText := by
    rw [Option.map_map]
    exact congrArg (Option.map · first) (funext fun affix =>
      congrArg countAtStart (fullText_bare affix))
  rw [readModifiers, readModifiers, prepend, append, endlength, mod, texts,
    texts, counts]
  cases firstNamed? element "mod" with
  | none => rfl
  | some replacement =>
    rw [Option.map_some]
    simp only [readReplacement_bare]

theorem isIgnored_bare
    {role : Role}
    (asked : "ignore" ∈ role.attributes)
    (element : Element) :
    isIgnored (role.bare element) = isIgnored element := by
  rw [isIgnored, isIgnored, attribute?_bare asked]

section

variable
    {Result : Type}
    {read : Element → Except RuleFileError Result}
    {role child : Role}
    {name : String}
    (asked : role.beneath? name = some child)
    (again : child.isOnce = false)
    (same : ∀ element, read (child.bare element) = read element)

include asked again same

/-- Levels are the same without noise if each of them is. -/
theorem readLevels_bare
    (hasId : "id" ∈ child.attributes)
    (merge : Result → Result → Result)
    (element : Element) :
    readLevels read merge ((role.bare element).elementsNamed name) =
      readLevels read merge (element.elementsNamed name) := by
  rw [elementsNamed_bare asked again, readLevels, readLevels, List.foldlM_map]
  simp only [requiredAttribute_bare hasId, same]

/-- Declarations are the same without noise if each of them is. -/
theorem mapM_bare (element : Element) :
    ((role.bare element).elementsNamed name).mapM read =
      (element.elementsNamed name).mapM read := by
  rw [elementsNamed_bare asked again, List.mapM_map]
  simp only [Function.comp_def, same]

end

theorem readQuantity_bare (element : Element) :
    readQuantity (Role.quantity.bare element) = readQuantity element := by
  have modifiers := readModifiers_bare .quantity (by decide) element
  rw [readQuantity, readQuantity, modifiers, isIgnored_bare (by decide)]

theorem readPerson_bare (element : Element) :
    readPerson (Role.person.bare element) = readPerson element := by
  have modifiers := readModifiers_bare .person (by decide) element
  rw [readPerson, readPerson,
    readLevels_bare rfl rfl readQuantity_bare (by decide), modifiers,
    isIgnored_bare (by decide)]

theorem readForm_bare (element : Element) :
    readForm (Role.form.bare element) = readForm element := by
  have modifiers := readModifiers_bare .form (by decide) element
  rw [readForm, readForm, readLevels_bare rfl rfl readPerson_bare (by decide),
    modifiers]

theorem readEntry_bare (kind : EntryKind) (element : Element) :
    readEntry kind ((Role.entry kind).bare element) =
      readEntry kind element := by
  have name : kind.nameAttribute ∈ (Role.entry kind).attributes :=
    List.mem_cons_self
  have inherit : "inherit" ∈ (Role.entry kind).attributes :=
    List.mem_cons_of_mem _ List.mem_cons_self
  rw [readEntry, readEntry, readLevels_bare rfl rfl readForm_bare (by decide),
    requiredAttribute_bare name, attribute?_bare inherit]

theorem readFormName_bare (element : Element) :
    readFormName (Role.formName.bare element) = readFormName element := by
  have leading :
      (Role.formName.bare element).leadingText? = element.leadingText? := by
    rcases element with ⟨tag, children⟩
    cases children with
    | nil => rfl
    | cons node rest => cases node <;> rfl
  rw [readFormName, readFormName, leading, name_bare]

theorem readParadigm_bare (element : Element) :
    readParadigm (Role.paradigm.bare element) = readParadigm element := by
  rw [readParadigm, readParadigm, requiredAttribute_bare (by decide),
    requiredAttribute_bare (by decide)]

theorem readFallback_bare (element : Element) :
    readFallback (Role.fallback.bare element) = readFallback element := by
  rw [readFallback, readFallback, requiredAttribute_bare (by decide),
    requiredAttribute_bare (by decide)]

theorem addDeclarations_bare
    {child : Role}
    {element : Element}
    (asked : Role.declarations.beneath? element.name = some child)
    (book : RuleBook) :
    book.addDeclarations (child.bare element) =
      book.addDeclarations element := by
  rw [RuleBook.addDeclarations, RuleBook.addDeclarations, name_bare]
  split
  all_goals
    rename_i named
  · rw [named] at asked
    cases asked
    rw [mapM_bare rfl rfl readFormName_bare]
  · rw [named] at asked
    cases asked
    rw [mapM_bare rfl rfl readParadigm_bare]
  · rw [named] at asked
    cases asked
    rw [mapM_bare rfl rfl readFallback_bare]
  · rfl

/-- A list of declarations that is not asked for declares nothing. -/
theorem addDeclarations_of_not_asked
    {element : Element}
    (notAsked : Role.declarations.beneath? element.name = none)
    (book : RuleBook) :
    book.addDeclarations element = .ok book := by
  rw [RuleBook.addDeclarations]
  split
  all_goals
    rename_i named
  · rw [named] at notAsked
    cases notAsked
  · rw [named] at notAsked
    cases notAsked
  · rw [named] at notAsked
    cases notAsked
  · rfl

theorem foldlM_addDeclarations_bare (book : RuleBook) (element : Element) :
    (Role.declarations.bare element).elements.foldlM
      RuleBook.addDeclarations book =
      element.elements.foldlM RuleBook.addDeclarations book := by
  have asksForForms :
      Role.declarations.beneath? "forms" = some .formNames := rfl
  rw [elements_bare asksForForms]
  apply foldlM_bareElements (by decide)
  · intro book element notAsked
    exact addDeclarations_of_not_asked notAsked book
  · intro book element child asked
    exact addDeclarations_bare asked book

theorem addElement_bare
    {child : Role}
    {element : Element}
    (asked : Role.document.beneath? element.name = some child)
    (book : RuleBook) :
    book.addElement (child.bare element) = book.addElement element := by
  rw [RuleBook.addElement, RuleBook.addElement, name_bare]
  split
  all_goals
    rename_i named
  · rw [named] at asked
    cases asked
    exact foldlM_addDeclarations_bare book element
  · rw [named] at asked
    cases asked
    rw [readEntry_bare]
  · rw [named] at asked
    cases asked
    rw [readEntry_bare]
  · rfl

/-- An element that is not asked for adds nothing. -/
theorem addElement_of_not_asked
    {element : Element}
    (notAsked : Role.document.beneath? element.name = none)
    (book : RuleBook) :
    book.addElement element = .ok book := by
  rw [RuleBook.addElement]
  split
  all_goals
    rename_i named
  · rw [named] at notAsked
    cases notAsked
  · rw [named] at notAsked
    cases notAsked
  · rw [named] at notAsked
    cases notAsked
  · rfl

theorem foldlM_addElement_bare (book : RuleBook) (root : Element) :
    (Role.document.bare root).elements.foldlM RuleBook.addElement book =
      root.elements.foldlM RuleBook.addElement book := by
  have asksForMeta : Role.document.beneath? "meta" = some .declarations := rfl
  rw [elements_bare asksForMeta]
  apply foldlM_bareElements (by decide)
  · intro book element notAsked
    exact addElement_of_not_asked notAsked book
  · intro book element child asked
    exact addElement_bare asked book

/-! ## The same without noise -/

/-- Without its noise a document comes to the same book, or to the same
error. -/
theorem RuleBook.ofElement_withoutNoise (root : Element) :
    RuleBook.ofElement (withoutNoise root) = RuleBook.ofElement root := by
  rw [RuleBook.ofElement, RuleBook.ofElement, withoutNoise,
    foldlM_addElement_bare, name_bare]

/-- A stray text, an unknown element and a second `append` are noise, and so is
a comment within the first one. -/
example :
    withoutNoise
        ⟨⟨none, "verbs", []⟩,
          [.element ⟨none, "verb",
              [⟨none, "word", "aller"⟩, ⟨none, "lang", "fr"⟩]⟩
            [.text "\n",
              .element ⟨none, "group", [⟨none, "id", "ger"⟩]⟩
                [.element ⟨none, "append", []⟩ [.text "a", .comment "stem",
                    .text "nt"],
                  .element ⟨none, "append", []⟩ [.text "ant"]],
              .element ⟨none, "note", []⟩ [.text "irregular"]]]⟩ =
      ⟨⟨none, "verbs", []⟩,
        [.element ⟨none, "verb", [⟨none, "word", "aller"⟩]⟩
          [.element ⟨none, "group", [⟨none, "id", "ger"⟩]⟩
            [.element ⟨none, "append", []⟩ [.text "ant"]]]]⟩ :=
  rfl

end Inflection.Rules
