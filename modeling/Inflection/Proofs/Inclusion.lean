import Inflection.Proofs.Agreement
import Inflection.Proofs.AncestorSearch
import Inflection.Proofs.Contents
import Inflection.Proofs.Selection

/-!
# Inheritance is inclusion of text

What a verb inherits could as well be written into its own element.  A document
is changed so: the element of the verb loses its reference, and behind its own
children stand those of the elements of its ancestors, the nearest first.  The
changed document can be read, and its book conjugates the verb as before.

On one side the rules of each place are searched for along the ancestors; on the
other the declarations of all of them are put together when the document is
read.  Both let the first declaration have the say.
-/

namespace Inflection

open Inflection.Rules
open Inflection.Markup (Attribute Element Node Tag)

/-! ## Changing a document -/

/-- An element without the attributes of this name that belong to
no namespace. -/
def withoutAttribute (element : Element) (name : String) : Element where
  tag :=
    { element.tag with
      attributes := element.tag.attributes.filter fun given =>
        !(given.space.isNone && given.name == name) }
  children := element.children

/-- An element with further elements behind its children. -/
def withElements (element : Element) (added : List Element) : Element :=
  ⟨element.tag, element.children ++ added.map Element.toNode⟩

/-- A node, changed if it is an element. -/
def changeNode (change : Element → Element) : Node → Node
  | .element tag children => (change ⟨tag, children⟩).toNode
  | other => other

/-- An element with the elements directly beneath it changed. -/
def changeElements (change : Element → Element) (root : Element) : Element :=
  ⟨root.tag, root.children.map (changeNode change)⟩

/-- The element of a verb with other elements included instead of what it
inherits; other elements stay as they are. -/
def includeInVerb
    (word : String)
    (added : List Element)
    (element : Element) :
    Element :=
  if element.name = "verb" ∧ element.attribute? "word" = some word then
    withElements (withoutAttribute element "inherit") added
  else
    element

/-- The elements beneath the element of a verb-set. -/
def elementsOfVerbSet (root : Element) (id : String) : List Element :=
  (((root.elementsNamed "verbset").find? fun element =>
    element.attribute? "id" = some id).map Element.elements).getD []

/-- A document with the elements of some verb-sets included in the
element of a verb. -/
def includeVerbSets
    (root : Element)
    (word : String)
    (ids : List String) :
    Element :=
  changeElements
    (includeInVerb word (ids.flatMap (elementsOfVerbSet root))) root

section

variable (element : Element) (added : List Element)

@[simp]
theorem name_withElements :
    (withElements element added).name = element.name :=
  rfl

@[simp]
theorem attribute?_withElements (name : String) :
    (withElements element added).attribute? name = element.attribute? name :=
  rfl

@[simp]
theorem name_withoutAttribute (name : String) :
    (withoutAttribute element name).name = element.name :=
  rfl

@[simp]
theorem elementsNamed_withoutAttribute (name wanted : String) :
    (withoutAttribute element name).elementsNamed wanted =
      element.elementsNamed wanted :=
  rfl

@[simp]
theorem name_includeInVerb (word : String) :
    (includeInVerb word added element).name = element.name := by
  unfold includeInVerb
  split
  · rw [name_withElements, name_withoutAttribute]
  · rfl

theorem attribute?_withoutAttribute_self (name : String) :
    (withoutAttribute element name).attribute? name = none := by
  unfold Element.attribute? withoutAttribute
  rw [Option.map_eq_none_iff, List.find?_eq_none]
  intro given kept isNamed
  have notNamed := (List.mem_filter.mp kept).2
  rw [isNamed] at notNamed
  cases notNamed

theorem attribute?_withoutAttribute_of_ne
    {name wanted : String}
    (differs : wanted ≠ name) :
    (withoutAttribute element name).attribute? wanted =
      element.attribute? wanted := by
  unfold Element.attribute? withoutAttribute
  rw [List.find?_filter]
  congr 2
  funext given
  by_cases isWanted : given.name = wanted
  · cases given.space <;> simp [isWanted, differs]
  · simp [isWanted]

theorem elements_withElements :
    (withElements element added).elements = element.elements ++ added := by
  have back : added.filterMap (Node.element? ∘ Element.toNode) = added := by
    have each : Node.element? ∘ Element.toNode = some := by
      funext other
      rfl
    rw [each, List.filterMap_some]
  unfold Element.elements withElements
  rw [List.filterMap_append, List.filterMap_map, back]

theorem elementsNamed_withElements (name : String) :
    (withElements element added).elementsNamed name =
      element.elementsNamed name ++ added.filter fun child =>
        child.name == name := by
  unfold Element.elementsNamed
  rw [elements_withElements, List.filter_append]

@[simp]
theorem name_changeElements (change : Element → Element) :
    (changeElements change element).name = element.name :=
  rfl

theorem elements_changeElements (change : Element → Element) :
    (changeElements change element).elements = element.elements.map change := by
  unfold Element.elements changeElements
  rw [List.filterMap_map, List.map_filterMap]
  congr 1
  funext node
  cases node <;> rfl

end

/-! ## Reading the changed document -/

/-- A verb with further forms put behind its own, instead of what
it inherits. -/
def mergedEntry
    (later : List (String × FormRules))
    (entry : Entry .verb) :
    Entry .verb :=
  ⟨entry.name, none, entry.forms.putAll FormRules.merge later⟩

/-- The entry of a word with further forms; other entries stay as they are. -/
def includeInEntry
    (word : String)
    (later : List (String × FormRules))
    (entry : Entry .verb) :
    Entry .verb :=
  if entry.name = word then mergedEntry later entry else entry

@[simp]
theorem name_includeInEntry
    (word : String)
    (later : List (String × FormRules))
    (entry : Entry .verb) :
    (includeInEntry word later entry).name = entry.name := by
  unfold includeInEntry
  split <;> rfl

theorem names_includeInEntry
    (word : String)
    (later : List (String × FormRules))
    (entries : List (Entry .verb)) :
    (entries.map (includeInEntry word later)).map Entry.name =
      entries.map Entry.name := by
  rw [List.map_map]
  exact List.map_congr_left fun entry _ => name_includeInEntry word later entry

/-- A book with further forms in the entry of a verb. -/
def includeInBook
    (word : String)
    (later : List (String × FormRules))
    (book : RuleBook) :
    RuleBook :=
  { book with
    verbs := book.verbs.map (includeInEntry word later)
    verbs_distinct := by
      rw [names_includeInEntry]
      exact book.verbs_distinct }

section

variable
    {word : String}
    {added : List Element}
    {later : List (String × FormRules)}
    (areRead : readGroups added = .ok later)

include areRead

theorem readEntry_includeInVerb
    {element : Element}
    (isVerb : element.name = "verb") :
    readEntry .verb (includeInVerb word added element) =
      (readEntry .verb element).map (includeInEntry word later) := by
  by_cases isWord : element.attribute? "word" = some word
  · rw [includeInVerb, if_pos ⟨isVerb, isWord⟩]
    have sameName :
        (withElements (withoutAttribute element "inherit") added).attribute?
          "word" = some word := by
      rw [attribute?_withElements,
        attribute?_withoutAttribute_of_ne element (by decide), isWord]
    have noReference :
        (withElements (withoutAttribute element "inherit") added).attribute?
          "inherit" = none := by
      rw [attribute?_withElements, attribute?_withoutAttribute_self]
    have stillRequired := requiredAttribute_eq_ok_iff.mpr sameName
    have isRequired := requiredAttribute_eq_ok_iff.mpr isWord
    simp only [readEntry, EntryKind.nameAttribute, stillRequired, isRequired,
      ok_bind, noReference, elementsNamed_withElements,
      elementsNamed_withoutAttribute, readLevels_append areRead]
    cases readLevels readForm FormRules.merge
        (element.elementsNamed "group") with
    | error failure => rfl
    | ok forms => simp [includeInEntry, mergedEntry]
  · rw [includeInVerb, if_neg fun both => isWord both.2]
    cases isEntry : readEntry .verb element with
    | error failure => rfl
    | ok entry =>
      rcases readEntry_eq_ok_iff.mp isEntry with ⟨name, levels, isName, -, rfl⟩
      have differs : ¬ name = word := by
        rintro rfl
        exact isWord isName
      simp [includeInEntry, differs]

end

section

variable
    (word : String)
    (later : List (String × FormRules))

theorem addVerb_includeInBook (book : RuleBook) (entry : Entry .verb) :
    (includeInBook word later book).addEntry (includeInEntry word later entry) =
      (book.addEntry entry).map (includeInBook word later) := by
  have sameNames :
      ((includeInBook word later book).entries .verb).map Entry.name =
        (book.entries .verb).map Entry.name :=
    names_includeInEntry word later book.verbs
  have sameName := name_includeInEntry word later entry
  by_cases taken : entry.name ∈ (book.entries .verb).map Entry.name
  · have stillTaken := taken
    rw [← sameNames, ← sameName] at stillTaken
    rw [RuleBook.addEntry_of_taken taken, RuleBook.addEntry_of_taken stillTaken,
      sameName]
    rfl
  · have stillNew := taken
    rw [← sameNames, ← sameName] at stillNew
    rw [RuleBook.addEntry_of_new taken, RuleBook.addEntry_of_new stillNew]
    simp [includeInBook, RuleBook.withEntries, RuleBook.entries]

theorem addVerbSet_includeInBook (book : RuleBook) (entry : Entry .verbSet) :
    (includeInBook word later book).addEntry entry =
      (book.addEntry entry).map (includeInBook word later) := by
  have sameSets :
      (includeInBook word later book).entries .verbSet =
        book.entries .verbSet :=
    rfl
  by_cases taken : entry.name ∈ (book.entries .verbSet).map Entry.name
  · rw [RuleBook.addEntry_of_taken taken,
      RuleBook.addEntry_of_taken (sameSets ▸ taken)]
    rfl
  · rw [RuleBook.addEntry_of_new taken,
      RuleBook.addEntry_of_new (sameSets ▸ taken)]
    rfl

theorem addDeclarations_includeInBook (book : RuleBook) (element : Element) :
    (includeInBook word later book).addDeclarations element =
      (book.addDeclarations element).map (includeInBook word later) := by
  unfold RuleBook.addDeclarations
  split
  · cases (element.elementsNamed "form").mapM readFormName <;> rfl
  · cases (element.elementsNamed "paradigm").mapM readParadigm <;> rfl
  · cases (element.elementsNamed "fallback").mapM readFallback <;> rfl
  · rfl

end

section

variable
    {word : String}
    {added : List Element}
    {later : List (String × FormRules)}
    (areRead : readGroups added = .ok later)

include areRead

theorem addElement_includeInBook (book : RuleBook) (element : Element) :
    (includeInBook word later book).addElement
      (includeInVerb word added element) =
      (book.addElement element).map (includeInBook word later) := by
  by_cases isVerb : element.name = "verb"
  · have changedIsVerb : (includeInVerb word added element).name = "verb" :=
      (name_includeInVerb ..).trans isVerb
    simp only [RuleBook.addElement, isVerb, changedIsVerb,
      readEntry_includeInVerb areRead isVerb]
    cases readEntry .verb element with
    | error failure => rfl
    | ok entry => exact addVerb_includeInBook word later book entry
  · have unchanged : includeInVerb word added element = element :=
      if_neg fun both => isVerb both.1
    rw [unchanged]
    unfold RuleBook.addElement
    split
    · have declarations :
          (element.elements.map id).foldlM RuleBook.addDeclarations
            (includeInBook word later book) =
            (element.elements.foldlM RuleBook.addDeclarations book).map
              (includeInBook word later) :=
        foldlM_map_of_step
          (fun state item _ =>
            addDeclarations_includeInBook word later state item) book
      rwa [List.map_id] at declarations
    · cases readEntry .verbSet element with
      | error failure => rfl
      | ok entry => exact addVerbSet_includeInBook word later book entry
    · contradiction
    · rfl

/-- The changed document is read as the book with the forms of the added
elements in the entry of the verb. -/
theorem ofElement_changeElements (root : Element) :
    RuleBook.ofElement (changeElements (includeInVerb word added) root) =
      (RuleBook.ofElement root).map (includeInBook word later) := by
  unfold RuleBook.ofElement
  rw [name_changeElements, elements_changeElements]
  split
  · exact foldlM_map_of_step
      (fun state item _ => addElement_includeInBook areRead state item) .empty
  · rfl

end

/-! ## The elements of the ancestors -/

/-- Tells that rules of forms, declared one after the other, say the same
as the nearest of some layers, in everything in which the first declaration
has the say. -/
def Gathers (levels : List (String × FormRules)) (layers : List Forms) : Prop :=
  ∀ {Said : Type} (form : String) (says? : FormRules → Option Said),
    FirstWins FormRules.merge says? →
      saidUnder form says? levels = nearestSaid layers form says?

/-- The elements of a verb-set are found by its name, and its forms are put
together from them. -/
theorem exists_forms_of_mem_verbSets
    {root : Element}
    {book : RuleBook}
    (isRead : RuleBook.ofElement root = .ok book)
    {entry : Entry .verbSet}
    (member : entry ∈ book.verbSets) :
    ∃ levels,
      readGroups (elementsOfVerbSet root entry.name) = .ok levels ∧
      entry.forms = Keyed.empty.putAll FormRules.merge levels := by
  rcases find?_element_of_mem
    (entries_of_ofElement isRead .verbSet) book.verbSets_distinct member
    with ⟨element, isFound, isEntry⟩
  rcases readEntry_eq_ok_iff.mp isEntry with
    ⟨name, levels, isName, areRead, rfl⟩
  have itsElements : elementsOfVerbSet root name = element.elements := by
    have found :
        (root.elementsNamed "verbset").find?
          (fun element => element.attribute? "id" = some name) =
            some element :=
      isFound
    rw [elementsOfVerbSet, found]
    rfl
  refine ⟨levels, ?_, rfl⟩
  rw [itsElements]
  exact areRead

/-- The elements of verb-sets, one after the other, declare what the nearest of
the verb-sets says. -/
theorem exists_levels_of_chain
    {root : Element}
    {book : RuleBook}
    (isRead : RuleBook.ofElement root = .ok book)
    {chain : List (Entry .verbSet)}
    (listed : ∀ entry ∈ chain, entry ∈ book.verbSets) :
    ∃ levels,
      readGroups ((chain.map Entry.name).flatMap (elementsOfVerbSet root)) =
        .ok levels ∧
      Gathers levels (chain.map Entry.forms) := by
  induction chain with
  | nil => exact ⟨[], rfl, fun form says? wins => rfl⟩
  | cons entry further ih =>
    rcases exists_forms_of_mem_verbSets isRead
        (listed entry (List.mem_cons_self ..)) with
      ⟨own, ownRead, isForms⟩
    rcases ih fun other later =>
        listed other (List.mem_cons_of_mem _ later) with
      ⟨others, othersRead, othersGathered⟩
    refine ⟨own ++ others, ?_, ?_⟩
    · rw [List.map_cons, List.flatMap_cons]
      exact readGroups_append ownRead othersRead
    · intro Said form says? wins
      have ownSays := Keyed.bind_find?_putAll wins .empty own form
      rw [← isForms] at ownSays
      rw [List.map_cons, nearestSaid_cons, saidUnder_append,
        othersGathered form says? wins, ownSays]
      rfl

/-! ## The same conjugations -/

theorem verb?_includeInBook
    {word : String}
    {book : RuleBook}
    {entry : Entry .verb}
    (found : book.verb? word = some entry)
    (later : List (String × FormRules)) :
    (includeInBook word later book).verb? word =
      some (mergedEntry later entry) := by
  have samePlace :
      (fun other => decide ((includeInEntry word later other).name = word)) =
      fun other => decide (other.name = word) := by
    funext other
    rw [name_includeInEntry]
  have there : (includeInBook word later book).verb? word =
      (book.verb? word).map (includeInEntry word later) := by
    unfold RuleBook.verb? includeInBook
    rw [List.find?_map]
    exact congrArg (fun test => (book.verbs.find? test).map _) samePlace
  rw [there, found, Option.map_some, includeInEntry,
    if_pos (name_of_verb? found)]

theorem conjugate_of_entry
    {book : RuleBook}
    {word : String}
    {entry : Entry .verb}
    {chain : List (Entry .verbSet)}
    (found : book.verb? word = some entry)
    (inherited : ancestors book entry = .ok chain)
    (selection : Selection) :
    book.conjugate selection word =
      .ok (some (Ancestry.conjugate ⟨entry, chain⟩ word selection)) := by
  rw [RuleBook.conjugate, ancestryOf, found]
  simp only [Ancestry.ofEntry, inherited, map_ok, Option.map_some]

/-- An entry that has the forms of its ancestors behind its own says the same as
the entry with its ancestors. -/
theorem sayAlike_putAll
    {forms : Forms}
    {further : List Forms}
    {later : List (String × FormRules)}
    (gathered : Gathers later further) :
    SayAlike [forms.putAll FormRules.merge later] (forms :: further) := by
  intro Said form says? wins
  rw [nearestSaid_cons, nearestSaid_cons, Keyed.bind_find?_putAll wins,
    gathered form says? wins]
  exact Option.or_none

/-- A document with the elements of its ancestors in the element of a verb
can be read, and the verb is conjugated as before, with every filter that
was accepted. -/
theorem conjugate_includeVerbSets
    {root : Element}
    {book : RuleBook}
    (isRead : RuleBook.ofElement root = .ok book)
    {word : String}
    {entry : Entry .verb}
    (found : book.verb? word = some entry)
    {chain : List (Entry .verbSet)}
    (inherited : ancestors book entry = .ok chain) :
    ∃ included,
      RuleBook.ofElement (includeVerbSets root word (chain.map Entry.name)) =
        .ok included ∧
      ∀ (language : String) (filter : Filter) (inflector : Inflector),
        Inflector.ofBook language book filter = .ok inflector →
          ∃ inflector',
            Inflector.ofBook language included filter = .ok inflector' ∧
            inflector'.conjugate word = inflector.conjugate word := by
  have way := way_of_ancestorsFrom inherited
  rcases exists_levels_of_chain isRead fun _ passed =>
      way.mem_verbSets passed with
    ⟨later, areRead, gathered⟩
  have included :
      RuleBook.ofElement (includeVerbSets root word (chain.map Entry.name)) =
      (RuleBook.ofElement root).map (includeInBook word later) :=
    ofElement_changeElements areRead root
  rw [isRead] at included
  refine ⟨includeInBook word later book, included, ?_⟩
  intro language filter inflector made
  have sameForms : (includeInBook word later book).forms = book.forms := rfl
  have sameParadigms :
      (includeInBook word later book).paradigms = book.paradigms := rfl
  rcases Inflector.exists_ofBook_of_declares_same made sameForms
      sameParadigms with
    ⟨inflector', made', isBook', sameSelection⟩
  rcases Inflector.parts_of_ofBook made with ⟨-, isBook, -⟩
  refine ⟨inflector', made', ?_⟩
  have noAncestors :
      ancestors (includeInBook word later book)
        (mergedEntry later entry) = .ok [] := by
    rw [mergedEntry, ancestors, ancestorsFrom]
  have alike : SayAlike
      (Ancestry.mk (mergedEntry later entry) []).layers
        (Ancestry.mk entry chain).layers :=
    sayAlike_putAll gathered
  rw [Inflector.conjugate, isBook', sameSelection,
    conjugate_of_entry (verb?_includeInBook found later) noAncestors,
    Inflector.conjugate, isBook, conjugate_of_entry found inherited,
    Ancestry.conjugate_of_sayAlike alike]

/-- An element whose attributes belong to no namespace. -/
def plainElement
    (name : String)
    (attributes : List (String × String))
    (children : List Element) :
    Element where
  tag := ⟨none, name, attributes.map fun given => ⟨none, given.1, given.2⟩⟩
  children := children.map Element.toNode

/-- An element with a text and nothing else. -/
def textElement (name content : String) : Element :=
  ⟨⟨none, name, []⟩, [.text content]⟩

/-- A document in which the rules for a verb stand on three entries.  The verb
itself has a modifier for a form only; its endings are those of persons and
quantities of its ancestors, and each of these has marks and endings for places
of the other, too. -/
def documentWithAncestors : Element :=
  plainElement "verbs" [] [
    plainElement "meta" [] [
      plainElement "forms" [] [textElement "form" "prs",
        textElement "form" "fut"],
      plainElement "paradigms" [] [
        plainElement "paradigm" [("person", "1"), ("quant", "sg")] [],
        plainElement "paradigm" [("person", "1"), ("quant", "pl")] [],
        plainElement "paradigm" [("person", "2"), ("quant", "sg")] [],
        plainElement "paradigm" [("person", "3"), ("quant", "sg")] [],
        plainElement "paradigm" [("person", "3"), ("quant", "pl")] []]],
    plainElement "verbset" [("id", "ir"), ("inherit", "base")] [
      plainElement "group" [("id", "prs")] [
        plainElement "pdgmgroup" [("id", "1")] [
          plainElement "paradigm" [("id", "sg")] [textElement "append" "is"]],
        plainElement "pdgmgroup" [("id", "2"), ("ignore", "1")] []]],
    plainElement "verbset" [("id", "base")] [
      plainElement "group" [("id", "prs")] [
        textElement "prepend" "re",
        plainElement "pdgmgroup" [("id", "1")] [
          textElement "append" "e",
          plainElement "paradigm" [("id", "pl")] [
            textElement "append" "issons"]],
        plainElement "pdgmgroup" [("id", "2")] [textElement "append" "es"],
        plainElement "pdgmgroup" [("id", "3")] [
          textElement "append" "issent",
          plainElement "paradigm" [("id", "sg"), ("ignore", "1")] []]],
      plainElement "group" [("id", "fut")] [textElement "append" "a"]],
    plainElement "verb" [("word", "finir"), ("inherit", "ir")] [
      plainElement "group" [("id", "prs")] [textElement "endlength" "2"]]]

/-- The verb of this document. -/
def verbWithAncestors : Entry .verb where
  name := "finir"
  inherit := some "ir"
  forms := .put FormRules.merge .empty "prs" ⟨{ removed := some 2 }, .empty⟩

/-- The verb-sets of this document, which are the ancestors of the verb. -/
def ancestorsOfVerb : List (Entry .verbSet) :=
  let ending (append : String) : QuantityRules :=
    ⟨false, { append := some append }⟩
  let quantity (id : String) (rules : QuantityRules) : Keyed QuantityRules :=
    .put QuantityRules.merge .empty id rules
  let persons (rules : List (String × PersonRules)) : Keyed PersonRules :=
    Keyed.empty.putAll PersonRules.merge rules
  [⟨"ir", some "base",
      .put FormRules.merge .empty "prs"
        ⟨.unset,
          persons [
            ("1", ⟨false, .unset, quantity "sg" (ending "is")⟩),
            ("2", ⟨true, .unset, .empty⟩)]⟩⟩,
    ⟨"base", none,
      .put FormRules.merge
        (.put FormRules.merge .empty "prs"
          ⟨{ prepend := some "re" },
            persons [
              ("1", ⟨false, { append := some "e" },
                quantity "pl" (ending "issons")⟩),
              ("2", ⟨false, { append := some "es" }, .empty⟩),
              ("3", ⟨false, { append := some "issent" },
                quantity "sg" ⟨true, .unset⟩⟩)]⟩)
        "fut" ⟨{ append := some "a" }, .empty⟩⟩]

/-- The book of this document. -/
def bookWithAncestors : RuleBook where
  forms := ["prs", "fut"]
  paradigms := [⟨"1", "sg"⟩, ⟨"1", "pl"⟩, ⟨"2", "sg"⟩, ⟨"3", "sg"⟩, ⟨"3", "pl"⟩]
  verbs := [verbWithAncestors]
  verbSets := ancestorsOfVerb
  verbs_distinct := by simp
  verbSets_distinct := by simp [ancestorsOfVerb]

/-- The conjugation of the verb. -/
def conjugationWithAncestors : Conjugation :=
  ⟨[⟨"prs", [("1sg", "finis"), ("1pl", "finissons"), ("3pl", "finissent")]⟩,
    ⟨"fut",
      [("1sg", "finira"), ("1pl", "finira"), ("2sg", "finira"),
        ("3sg", "finira"), ("3pl", "finira")]⟩]⟩

/-- In the present, the ending of a first person comes from one ancestor in the
singular and from the other in the plural, the second person is ignored by the
nearer ancestor and the third in the singular by the further one, and what is
removed is up to the verb.  It is the same when all stands in its element. -/
theorem conjugate_includeVerbSets_ir_base :
    RuleBook.ofElement documentWithAncestors = .ok bookWithAncestors ∧
    bookWithAncestors.verb? "finir" = some verbWithAncestors ∧
    ancestors bookWithAncestors verbWithAncestors = .ok ancestorsOfVerb ∧
    ∃ included inflector inflector',
      RuleBook.ofElement
          (includeVerbSets documentWithAncestors "finir" ["ir", "base"]) =
        .ok included ∧
      Inflector.ofBook "fr" bookWithAncestors {} = .ok inflector ∧
      inflector.conjugate "finir" = .ok (some conjugationWithAncestors) ∧
      Inflector.ofBook "fr" included {} = .ok inflector' ∧
      inflector'.conjugate "finir" = .ok (some conjugationWithAncestors) := by
  have isRead :
      RuleBook.ofElement documentWithAncestors = .ok bookWithAncestors := by
    rfl
  have found : bookWithAncestors.verb? "finir" = some verbWithAncestors := by
    rfl
  have inherited :
      ancestors bookWithAncestors verbWithAncestors = .ok ancestorsOfVerb := by
    have way :
        Way bookWithAncestors verbWithAncestors.inherit ancestorsOfVerb none :=
      .onward rfl (.onward rfl (.here none))
    exact ancestors_of_searchEnds (.ended way (by decide) (by decide))
  have names : ancestorsOfVerb.map Entry.name = ["ir", "base"] := by
    rfl
  rcases Inflector.exists_ofBook "fr"
      (Filter.resolve_unrestricted bookWithAncestors) with
    ⟨inflector, made⟩
  have conjugated :
      inflector.conjugate "finir" = .ok (some conjugationWithAncestors) := by
    cases made
    rw [Inflector.conjugate, conjugate_of_entry found inherited]
    rfl
  rcases conjugate_includeVerbSets isRead found inherited with
    ⟨included, isIncluded, same⟩
  rw [names] at isIncluded
  rcases same "fr" {} inflector made with ⟨inflector', made', alike⟩
  exact ⟨isRead, found, inherited, included, inflector, inflector', isIncluded,
    made, conjugated, made', alike.trans conjugated⟩

end Inflection
