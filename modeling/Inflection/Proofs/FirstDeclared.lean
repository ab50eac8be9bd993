import Inflection.Proofs.DocumentOrder

/-!
# The first declaration in document order

A level may be declared again and again, beside itself and within further
declarations of the level around it.  Reading puts all of them together, level
by level, and where a declaration is merged into an earlier one, the levels
beneath it may be taken in any order.

What has been read still answers as a search through the document.  All
declarations of a place stand in one list, in document order, over all
declarations of the places around it; the place exists if there is one, and its
mark and its modifiers are those of the first.
-/

namespace Inflection.Markup

/-! ## Texts -/

mutual

/-- A node and all nodes beneath it, in document order. -/
def Node.descendants : Node → List Node
  | .element tag children => .element tag children :: descendantsOf children
  | .text content => [.text content]
  | .comment content => [.comment content]
  | .instruction target content => [.instruction target content]

/-- Some nodes and all nodes beneath them, in document order. -/
def descendantsOf : List Node → List Node
  | [] => []
  | node :: rest => node.descendants ++ descendantsOf rest

end

/-- The content of a node that is text. -/
def Node.text? : Node → Option String
  | .text content => some content
  | _ => none

/-- The texts beneath an element, in document order. -/
def Element.texts (element : Element) : List String :=
  (descendantsOf element.children).filterMap Node.text?

mutual

theorem Node.fullText_eq_join :
    ∀ node : Node, node.fullText =
      String.join (node.descendants.filterMap Node.text?)
  | .element tag children => by
    rw [Node.fullText, Node.descendants, List.filterMap_cons]
    exact textBeneath_eq_join children
  | .text content => by
    simp [Node.fullText, Node.descendants, Node.text?]
  | .comment content => rfl
  | .instruction target content => rfl

theorem textBeneath_eq_join :
    ∀ nodes : List Node,
      textBeneath nodes =
        String.join ((descendantsOf nodes).filterMap Node.text?)
  | [] => by
    simp [textBeneath, descendantsOf]
  | node :: rest => by
    rw [textBeneath, descendantsOf, List.filterMap_append, String.join_append,
      node.fullText_eq_join, textBeneath_eq_join rest]

end

/-- The full text of an element is made of the texts beneath it. -/
theorem Element.fullText_eq_join (element : Element) :
    element.fullText = String.join element.texts :=
  textBeneath_eq_join element.children

end Inflection.Markup

namespace Inflection.Rules

open Inflection.Markup (Element)

/-! ## Declarations -/

/-- The elements with this `id`. -/
def withId (id : String) (elements : List Element) : List Element :=
  elements.filter fun element => element.attribute? "id" = some id

/-- All declarations of a form beneath the element of an entry, in
document order. -/
def formDeclarations (element : Element) (form : String) : List Element :=
  withId form (element.elementsNamed "group")

/-- All declarations of a person, over all declarations of its form. -/
def personDeclarations
    (element : Element)
    (form person : String) :
    List Element :=
  (formDeclarations element form).flatMap fun group =>
    withId person (group.elementsNamed "pdgmgroup")

/-- All declarations of a quantity, over all declarations of its person. -/
def quantityDeclarations
    (element : Element)
    (form person quantity : String) :
    List Element :=
  (personDeclarations element form person).flatMap fun group =>
    withId quantity (group.elementsNamed "paradigm")

/-- Tells that a replacement is the one that an element declares. -/
structure ReplacementFrom
    (element : Element)
    (replacement : Replacement) :
    Prop where
  mode : element.attribute? "match" = some replacement.mode.name
  search : element.attribute? "search" = some replacement.search.source
  text : replacement.text = (element.attribute? "replace").getD ""

/-- Tells that modifiers are those that the level of an element declares: each
by the first element of its name directly beneath the level, and texts by all
text beneath that element. -/
structure ModifiersFrom (level : Element) (modifiers : Modifiers) : Prop where
  prepend :
    modifiers.prepend =
      (level.elementsNamed "prepend").head?.map fun child =>
        String.join child.texts
  append :
    modifiers.append =
      (level.elementsNamed "append").head?.map fun child =>
        String.join child.texts
  removed :
    modifiers.removed =
      (level.elementsNamed "endlength").head?.map fun child =>
        countAtStart (String.join child.texts)
  replacement :
    Option.Rel ReplacementFrom
      (level.elementsNamed "mod").head? modifiers.replacement

/-- Tells that a mark and modifiers are those that the level of an
element declares. -/
structure OwnFrom
    (level : Element)
    (ignored : Bool)
    (modifiers : Modifiers) :
    Prop where
  ignored : ignored = (level.attribute? "ignore").isSome
  modifiers : ModifiersFrom level modifiers

/-- Tells that rules for forms answer as a search through the element of an
entry, in document order. -/
structure AnswersInDocumentOrder
    (element : Element)
    (forms : Forms) :
    Prop where
  form (form : String) :
    Option.Rel
      (fun declaration rules => ModifiersFrom declaration rules.modifiers)
      (formDeclarations element form).head?
      (forms.find? form)
  person (form person : String) :
    Option.Rel
      (fun declaration rules =>
        OwnFrom declaration rules.ignored rules.modifiers)
      (personDeclarations element form person).head?
      (forms.person? form person)
  quantity (form person quantity : String) :
    Option.Rel
      (fun declaration rules =>
        OwnFrom declaration rules.ignored rules.modifiers)
      (quantityDeclarations element form person quantity).head?
      (forms.quantity? form person quantity)

/-! ## Modifiers -/

theorem name_of_named?
    {name : String}
    {mode : MatchMode}
    (named : MatchMode.named? name = some mode) :
    mode.name = name := by
  unfold MatchMode.named? at named
  split at named
  · rename_i isFirst
    cases named
    exact isFirst.symm
  · split at named
    · rename_i isAll
      cases named
      exact isAll.symm
    · cases named

theorem replacementFrom_of_readReplacement
    {element : Element}
    {replacement : Replacement}
    (isRead : readReplacement element = .ok replacement) :
    ReplacementFrom element replacement := by
  unfold readReplacement at isRead
  rcases bind_eq_ok_iff.mp isRead with ⟨modeName, isMode, isRead⟩
  split at isRead
  · cases isRead
  · rename_i mode named
    rcases bind_eq_ok_iff.mp isRead with ⟨source, isSearch, isRead⟩
    rcases bind_eq_ok_iff.mp isRead with ⟨search, compiled, isRead⟩
    cases isRead
    have isSource : search.source = source := by
      unfold compilePattern at compiled
      split at compiled
      · cases compiled
      · rename_i pattern made
        cases compiled
        exact Pattern.source_of_ofSource? made
    refine ⟨?_, ?_, rfl⟩
    · rw [name_of_named? named]
      exact requiredAttribute_eq_ok_iff.mp isMode
    · rw [isSource]
      exact requiredAttribute_eq_ok_iff.mp isSearch

/-- Modifiers are those of their level if the replacement is. -/
theorem modifiersFrom_of_rel
    {level : Element}
    {replacement : Option Replacement}
    (declared :
      Option.Rel ReplacementFrom
        (level.elementsNamed "mod").head? replacement) :
    ModifiersFrom level
      { prepend := (firstNamed? level "prepend").map Element.fullText
        append := (firstNamed? level "append").map Element.fullText
        replacement := replacement
        removed := (firstNamed? level "endlength").map fun element =>
          countAtStart element.fullText } := by
  have joined : Element.fullText = fun child => String.join child.texts :=
    funext Element.fullText_eq_join
  rw [joined]
  exact ⟨rfl, rfl, rfl, declared⟩

theorem modifiersFrom_of_readModifiers
    {level : Element}
    {modifiers : Modifiers}
    (isRead : readModifiers level = .ok modifiers) :
    ModifiersFrom level modifiers := by
  unfold readModifiers at isRead
  cases isFirst : firstNamed? level "mod" with
  | none =>
    rw [isFirst] at isRead
    cases isRead
    refine modifiersFrom_of_rel ?_
    rw [← firstNamed?, isFirst]
    exact .none
  | some element =>
    rw [isFirst] at isRead
    rcases bind_eq_ok_iff.mp isRead with ⟨replacement, replacementRead, isRead⟩
    cases isRead
    refine modifiersFrom_of_rel ?_
    rw [← firstNamed?, isFirst]
    cases isReplacement : readReplacement element with
    | error failure => simp [isReplacement] at replacementRead
    | ok found =>
      simp only [isReplacement, map_ok] at replacementRead
      cases replacementRead
      exact .some (replacementFrom_of_readReplacement isReplacement)

/-! ## Readings -/

/-- Tells that a level is read from an element, and stands under its `id`. -/
def ReadsNamed {Level : Type}
    (Reads : Element → Level → Prop)
    (element : Element)
    (entry : String × Level) :
    Prop :=
  element.attribute? "id" = some entry.1 ∧ Reads element entry.2

/-- Tells that levels are read from some elements, one after the other and each
under its `id`, where it is laid down what the reading of one and the
combination of two may come to. -/
def ReadsLevels {Level : Type}
    (Reads : Element → Level → Prop)
    (Combines : Level → Level → Level → Prop)
    (elements : List Element)
    (levels : Keyed Level) :
    Prop :=
  ∃ entries,
    List.Forall₂ (ReadsNamed Reads) elements entries ∧
    Keyed.empty.PutsAllTo Combines entries levels

/-- Tells that the rules for a quantity are read from an element. -/
structure ReadsQuantity (element : Element) (rules : QuantityRules) : Prop where
  ignored : rules.ignored = isIgnored element
  modifiers : readModifiers element = .ok rules.modifiers

/-- Tells that the rules for a person are read from an element. -/
structure ReadsPerson (element : Element) (rules : PersonRules) : Prop where
  ignored : rules.ignored = isIgnored element
  modifiers : readModifiers element = .ok rules.modifiers
  quantities :
    ReadsLevels ReadsQuantity QuantityRules.MergesTo
      (element.elementsNamed "paradigm")
      rules.quantities

/-- Tells that the rules for a form are read from an element, with persons that
are declared again merged in any order. -/
structure ReadsForm (element : Element) (rules : FormRules) : Prop where
  modifiers : readModifiers element = .ok rules.modifiers
  persons :
    ReadsLevels ReadsPerson PersonRules.MergesTo
      (element.elementsNamed "pdgmgroup") rules.persons

/-- Tells that an entry is read from an element, with levels that are declared
again merged in any order. -/
structure ReadsEntry
    (kind : EntryKind)
    (element : Element)
    (entry : Entry kind) :
    Prop where
  name : element.attribute? kind.nameAttribute = some entry.name
  inherit : entry.inherit = element.attribute? "inherit"
  forms :
    ReadsLevels ReadsForm FormRules.MergesTo
      (element.elementsNamed "group") entry.forms

section

variable
    {Level : Type}
    {read : Element → Except RuleFileError Level}
    {merge : Level → Level → Level}
    {Reads : Element → Level → Prop}
    {Combines : Level → Level → Level → Prop}

theorem forall₂_of_mapM_readNamed
    (reads : ∀ element level, read element = .ok level → Reads element level)
    {elements : List Element}
    {entries : List (String × Level)}
    (areRead : elements.mapM (readNamed read) = .ok entries) :
    List.Forall₂ (ReadsNamed Reads) elements entries := by
  apply (mapM_eq_ok_iff.mp areRead).imp
  intro element entry isRead
  rcases bind_eq_ok_iff.mp isRead with ⟨id, isId, isRead⟩
  rcases bind_eq_ok_iff.mp isRead with ⟨level, levelRead, isRead⟩
  cases isRead
  exact ⟨requiredAttribute_eq_ok_iff.mp isId, reads element level levelRead⟩

/-- Reading levels is one of the readings. -/
theorem readsLevels_of_readLevels
    (reads : ∀ element level, read element = .ok level → Reads element level)
    (combines : ∀ earlier later, Combines earlier later (merge earlier later))
    {elements : List Element}
    {levels : Keyed Level}
    (areRead : readLevels read merge elements = .ok levels) :
    ReadsLevels Reads Combines elements levels := by
  rw [readLevels_eq] at areRead
  cases entriesRead : elements.mapM (readNamed read) with
  | error failure => simp [entriesRead] at areRead
  | ok entries =>
    simp only [entriesRead, map_ok] at areRead
    cases areRead
    exact ⟨entries, forall₂_of_mapM_readNamed reads entriesRead,
      Keyed.putsAllTo_putAll combines .empty entries⟩

end

theorem readsQuantity_of_readQuantity
    (element : Element)
    (rules : QuantityRules)
    (isRead : readQuantity element = .ok rules) :
    ReadsQuantity element rules := by
  rcases bind_eq_ok_iff.mp isRead with ⟨modifiers, modifiersRead, isRead⟩
  cases isRead
  exact ⟨rfl, modifiersRead⟩

theorem readsPerson_of_readPerson
    (element : Element)
    (rules : PersonRules)
    (isRead : readPerson element = .ok rules) :
    ReadsPerson element rules := by
  rcases bind_eq_ok_iff.mp isRead with ⟨quantities, quantitiesRead, isRead⟩
  rcases bind_eq_ok_iff.mp isRead with ⟨modifiers, modifiersRead, isRead⟩
  cases isRead
  exact ⟨rfl, modifiersRead,
    readsLevels_of_readLevels readsQuantity_of_readQuantity
      QuantityRules.mergesTo_merge quantitiesRead⟩

theorem readsForm_of_readForm
    (element : Element)
    (rules : FormRules)
    (isRead : readForm element = .ok rules) :
    ReadsForm element rules := by
  rcases bind_eq_ok_iff.mp isRead with ⟨persons, personsRead, isRead⟩
  rcases bind_eq_ok_iff.mp isRead with ⟨modifiers, modifiersRead, isRead⟩
  cases isRead
  exact ⟨modifiersRead, readsLevels_of_readLevels readsPerson_of_readPerson
    PersonRules.mergesTo_merge personsRead⟩

theorem readsEntry_of_readEntry
    {kind : EntryKind}
    {element : Element}
    {entry : Entry kind}
    (isRead : readEntry kind element = .ok entry) :
    ReadsEntry kind element entry := by
  rcases bind_eq_ok_iff.mp isRead with ⟨name, isName, isRead⟩
  rcases bind_eq_ok_iff.mp isRead with ⟨forms, formsRead, isRead⟩
  cases isRead
  exact ⟨requiredAttribute_eq_ok_iff.mp isName, rfl,
    readsLevels_of_readLevels readsForm_of_readForm FormRules.mergesTo_merge
      formsRead⟩

/-! ## Searches -/

section

variable
    {Level Said : Type}
    {Reads : Element → Level → Prop}
    {Combines : Level → Level → Level → Prop}
    {Tells : Element → Said → Prop}
    {declared : Element → List Element}
    {says? : Level → Option Said}

/-- What is found first in either of two searches agrees if both agree. -/
theorem rel_or
    {first further : Option Element}
    {said others : Option Said}
    (firstTells : Option.Rel Tells first said)
    (othersTell : Option.Rel Tells further others) :
    Option.Rel Tells (first.or further) (said.or others) := by
  cases firstTells with
  | none => exact othersTell
  | some tells => exact .some tells

/-- If levels say what their elements tell, then what the first level of an `id`
says that says anything is what the first declaration beneath all elements with
this `id` tells. -/
theorem rel_saidUnder
    (each : ∀ element level, Reads element level →
      Option.Rel Tells (declared element).head? (says? level))
    (id : String)
    {elements : List Element}
    {entries : List (String × Level)}
    (areRead : List.Forall₂ (ReadsNamed Reads) elements entries) :
    Option.Rel Tells ((withId id elements).flatMap declared).head?
      (saidUnder id says? entries) := by
  induction areRead with
  | nil => exact .none
  | @cons element entry elements entries isRead others ih =>
    rcases isRead with ⟨isId, isRead⟩
    rw [saidUnder_cons, withId, List.filter_cons]
    by_cases here : entry.1 = id
    · rw [if_pos (by simp [isId, here]), if_pos here, List.flatMap_cons,
        List.head?_append]
      exact rel_or (each element entry.2 isRead) ih
    · rw [if_neg (by simp [isId, here]), if_neg here, Option.none_or]
      exact ih

/-- Where the earlier of two combined levels has the say, levels that were read
say what the first declaration tells. -/
theorem ReadsLevels.rel_bind_find?
    (wins : FirstAlwaysWins Combines says?)
    (each : ∀ element level, Reads element level →
      Option.Rel Tells (declared element).head? (says? level))
    {elements : List Element}
    {levels : Keyed Level}
    (areRead : ReadsLevels Reads Combines elements levels)
    (id : String) :
    Option.Rel Tells ((withId id elements).flatMap declared).head?
      ((levels.find? id).bind says?) := by
  rcases areRead with ⟨entries, entriesRead, puts⟩
  rw [puts.bind_find? wins]
  exact rel_saidUnder each id entriesRead

end

/-- What the first declaration of a person has the say on, an entry that
was read says by the first declaration that tells it, over all declarations
of the form. -/
theorem ReadsEntry.rel_bind_person?
    {Said : Type}
    {Tells : Element → Said → Prop}
    {declared : Element → List Element}
    {says? : PersonRules → Option Said}
    (wins : FirstAlwaysWins PersonRules.MergesTo says?)
    (each : ∀ element rules, ReadsPerson element rules →
      Option.Rel Tells (declared element).head? (says? rules))
    {kind : EntryKind}
    {element : Element}
    {entry : Entry kind}
    (isRead : ReadsEntry kind element entry)
    (form person : String) :
    Option.Rel Tells
      ((personDeclarations element form person).flatMap declared).head?
      ((entry.forms.person? form person).bind says?) := by
  rw [personDeclarations, List.flatMap_assoc, Keyed.person?, Option.bind_assoc]
  exact isRead.forms.rel_bind_find? (firstAlwaysWins_personOfForm wins person)
    (fun _ _ groupRead =>
      groupRead.persons.rel_bind_find? wins each person) form

/-- A search that tells a part of what is found tells it of what is found. -/
theorem rel_of_bind_some
    {Item Found Part : Type}
    {Tells : Item → Part → Prop}
    {part : Found → Part}
    {item : Option Item}
    {found : Option Found}
    (tells :
      Option.Rel Tells item (found.bind fun value => some (part value))) :
    Option.Rel (fun item value => Tells item (part value)) item found := by
  cases found with
  | none =>
    cases tells
    exact .none
  | some value =>
    cases tells with
    | some told => exact .some told

section

variable
    {kind : EntryKind}
    {element : Element}
    {entry : Entry kind}

/-- An entry that was read has the modifiers of the first
declaration of a form. -/
theorem ReadsEntry.rel_form?
    (isRead : ReadsEntry kind element entry)
    (form : String) :
    Option.Rel (fun declaration rules =>
      ModifiersFrom declaration rules.modifiers)
      (formDeclarations element form).head? (entry.forms.find? form) := by
  have told :
      Option.Rel ModifiersFrom
        ((formDeclarations element form).flatMap fun group => [group]).head?
        ((entry.forms.find? form).bind fun rules => some rules.modifiers) :=
    isRead.forms.rel_bind_find? firstAlwaysWins_formModifiers
      (fun _ _ groupRead =>
        .some (modifiersFrom_of_readModifiers groupRead.modifiers)) form
  rw [List.flatMap_singleton'] at told
  exact rel_of_bind_some told

/-- An entry that was read has the mark and the modifiers of the first
declaration of a person. -/
theorem ReadsEntry.rel_person?
    (isRead : ReadsEntry kind element entry)
    (form person : String) :
    Option.Rel (fun declaration rules =>
      OwnFrom declaration rules.ignored rules.modifiers)
      (personDeclarations element form person).head?
        (entry.forms.person? form person) := by
  have told :
      Option.Rel (fun declaration (own : Bool × Modifiers) =>
        OwnFrom declaration own.1 own.2)
        ((personDeclarations element form person).flatMap fun group =>
          [group]).head?
        ((entry.forms.person? form person).bind fun rules => some rules.own) :=
    isRead.rel_bind_person? firstAlwaysWins_personOwn
      (fun _ _ personRead =>
        .some ⟨personRead.ignored,
          modifiersFrom_of_readModifiers personRead.modifiers⟩)
      form person
  rw [List.flatMap_singleton'] at told
  exact rel_of_bind_some told

/-- A person that was read has the mark and the modifiers of the first
declaration of a quantity. -/
theorem ReadsPerson.rel_quantity
    {rules : PersonRules}
    (isRead : ReadsPerson element rules)
    (quantity : String) :
    Option.Rel (fun declaration rules =>
      OwnFrom declaration rules.ignored rules.modifiers)
      (withId quantity (element.elementsNamed "paradigm")).head?
      (rules.quantities.find? quantity) := by
  have told :
      Option.Rel
        (fun declaration (rules : QuantityRules) =>
          OwnFrom declaration rules.ignored rules.modifiers)
        ((withId quantity (element.elementsNamed "paradigm")).flatMap
          fun level => [level]).head?
        ((rules.quantities.find? quantity).bind some) :=
    isRead.quantities.rel_bind_find? firstAlwaysWins_quantity
      (fun _ _ quantityRead =>
        .some ⟨quantityRead.ignored,
          modifiersFrom_of_readModifiers quantityRead.modifiers⟩)
      quantity
  rwa [List.flatMap_singleton', Option.bind_fun_some] at told

/-- An entry that is read answers as a search through its element in document
order, and so does every entry that may be read from the element by merging in
another order. -/
theorem readEntry_answersInDocumentOrder
    (isRead : readEntry kind element = .ok entry) :
    ReadsEntry kind element entry ∧
    ∀ other, ReadsEntry kind element other →
    AnswersInDocumentOrder element other.forms := by
  refine ⟨readsEntry_of_readEntry isRead, ?_⟩
  intro other otherRead
  refine ⟨otherRead.rel_form?, otherRead.rel_person?, ?_⟩
  intro form person quantity
  exact otherRead.rel_bind_person? (firstAlwaysWins_quantityOfPerson quantity)
    (fun _ _ personRead => personRead.rel_quantity quantity) form person

end

/-- The element of a level, with its `id`. -/
def levelNode (name id : String) (children : List Markup.Node) : Markup.Node :=
  .element ⟨none, name, [⟨none, "id", id⟩]⟩ children

/-- A verb in which a form, a person of it and a quantity of that person are
declared again, with another form between. -/
def repeatedDeclarations : Element where
  tag := ⟨none, "verb", [⟨none, "word", "aller"⟩]⟩
  children := [
    levelNode "group" "prs" [
      levelNode "pdgmgroup" "1" [
        levelNode "paradigm" "sg" []]],
    levelNode "group" "imp" [],
    levelNode "group" "prs" [
      .element ⟨none, "append", []⟩ [.text "s"],
      levelNode "pdgmgroup" "2" [],
      levelNode "pdgmgroup" "1" [
        levelNode "paradigm" "pl" [
          .element ⟨none, "append", []⟩
            [.text "on", .comment "first person", .text "s"]],
        levelNode "paradigm" "sg" [
          .element ⟨none, "append", []⟩ [.text "e"]]]]]

/-- The entry of this verb. -/
def entryOfRepeated : Entry .verb where
  name := "aller"
  inherit := none
  forms := Keyed.empty
    |>.put FormRules.merge "prs"
      { modifiers := .unset
        persons := Keyed.empty
          |>.put PersonRules.merge "1"
            { ignored := false
              modifiers := .unset
              quantities := Keyed.empty
                |>.put QuantityRules.merge "sg" ⟨false, .unset⟩
                |>.put QuantityRules.merge "pl" ⟨false,
                  { append := some "ons" }⟩ }
          |>.put PersonRules.merge "2" ⟨false, .unset, .empty⟩ }
    |>.put FormRules.merge "imp" ⟨.unset, .empty⟩

theorem readEntry_answersInDocumentOrder_repeated :
    readEntry .verb repeatedDeclarations = .ok entryOfRepeated ∧
    ReadsEntry .verb repeatedDeclarations entryOfRepeated ∧
    ∀ other, ReadsEntry .verb repeatedDeclarations other →
      AnswersInDocumentOrder repeatedDeclarations other.forms := by
  have isRead : readEntry .verb repeatedDeclarations = .ok entryOfRepeated := by
    rfl
  exact ⟨isRead, readEntry_answersInDocumentOrder isRead⟩

end Inflection.Rules
