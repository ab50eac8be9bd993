import Inflection.Proofs.Contents
import Inflection.Proofs.Growth
import Inflection.Proofs.Inclusion
import Inflection.Proofs.Readings

/-!
# Rearranged rule files

The elements of a rule file may stand in another order, if some keep theirs
among each other: the lists of declarations and the sections of one name in
them, the levels of one name and `id` beneath a level, and the modifiers of one
name.  Verbs and verb-sets may stand anywhere.

A rearranged document is read exactly if the document is, and then as
the same book.  The errors may differ, since reading stops at whatever
defect comes first.
-/

namespace Inflection.Rules

open Inflection.Markup (Element)

/-! ## Rearranged documents -/

/-- What elements can have in common so that they keep their order. -/
inductive Label where
  | named (name : String)
  | identified (name id : String)
  deriving DecidableEq

/-- What an element keeps its order by beneath a level, where those of some
names keep it by name and those of some other names by name and `id`.  The
remaining elements can stand anywhere. -/
def label? (byName byId : List String) (element : Element) : Option Label :=
  if element.name ∈ byName then some (.named element.name)
  else if element.name ∈ byId then
    (element.attribute? "id").map (.identified element.name)
  else none

/-- Tells that elements stand in another order, except that those with the same
label keep theirs. -/
structure Reordered
    (labelOf? : Element → Option Label)
    (elements reordered : List Element) :
    Prop where
  perm : reordered.Perm elements
  kept (label : Label) :
    (reordered.filter fun element => labelOf? element = some label) =
      elements.filter fun element => labelOf? element = some label

/-- Tells that the elements beneath an element stand in another order, and are
themselves changed. -/
structure Rearranged
    (byName byId : List String)
    (Changes : Element → Element → Prop)
    (element rearranged : Element) :
    Prop where
  tag : rearranged.tag = element.tag
  elements :
    ∃ reordered, Reordered (label? byName byId) element.elements reordered ∧
      List.Forall₂ Changes reordered rearranged.elements

/-- Changes to the elements of one name; all others stay as they are. -/
def Only
    (name : String)
    (Changes : Element → Element → Prop)
    (element changed : Element) :
    Prop :=
  if element.name = name then Changes element changed else changed = element

/-- The names of modifiers. -/
def modifierNames : List String :=
  ["prepend", "append", "endlength", "mod"]

/-- Tells that the rules for a quantity are rearranged. -/
def RearrangedQuantity : Element → Element → Prop :=
  Rearranged modifierNames [] fun element changed => changed = element

/-- Tells that the rules for a person are rearranged. -/
def RearrangedPerson : Element → Element → Prop :=
  Rearranged modifierNames ["paradigm"] (Only "paradigm" RearrangedQuantity)

/-- Tells that the rules for a form are rearranged. -/
def RearrangedForm : Element → Element → Prop :=
  Rearranged modifierNames ["pdgmgroup"] (Only "pdgmgroup" RearrangedPerson)

/-- Tells that an entry is rearranged. -/
def RearrangedEntry : Element → Element → Prop :=
  Rearranged [] ["group"] (Only "group" RearrangedForm)

/-- Tells that lists of declarations are rearranged. -/
def RearrangedDeclarations : Element → Element → Prop :=
  Rearranged ["forms", "paradigms", "fallbacks"] [] fun element changed =>
    changed = element

/-- Changes to the elements directly beneath the outermost one. -/
def ChangesInDocument (element changed : Element) : Prop :=
  match element.name with
  | "meta" => RearrangedDeclarations element changed
  | "verb" => RearrangedEntry element changed
  | "verbset" => RearrangedEntry element changed
  | _ => changed = element

/-- Tells that a document is rearranged. -/
def RearrangedDocument : Element → Element → Prop :=
  Rearranged ["meta"] [] ChangesInDocument

/-! ## First rearrangements -/

section

variable {labelOf? : Element → Option Label}

theorem Reordered.refl
    (elements : List Element) :
    Reordered labelOf? elements elements where
  perm := .refl elements
  kept _ := rfl

/-- Two elements that stand side by side can be swapped if they have no
label in common. -/
theorem Reordered.swap
    {first second : Element}
    (differ : labelOf? first = none ∨ labelOf? first ≠ labelOf? second)
    (front back : List Element) :
    Reordered labelOf? (front ++ first :: second :: back)
      (front ++ second :: first :: back) where
  perm := (List.Perm.swap first second back).append_left front
  kept label := by
    rw [List.filter_append, List.filter_append]
    by_cases isFirst : labelOf? first = some label
    · have notSecond : labelOf? second ≠ some label := by
        rcases differ with free | differ
        · simp [free] at isFirst
        · exact fun isSecond => differ (isFirst.trans isSecond.symm)
      simp [isFirst, notSecond]
    · simp [List.filter_cons, isFirst]

end

section

variable
    {byName byId : List String}
    {Changes : Element → Element → Prop}

theorem Rearranged.refl
    (unchanged : ∀ element, Changes element element)
    (element : Element) :
    Rearranged byName byId Changes element element where
  tag := rfl
  elements :=
    ⟨element.elements, .refl _,
      List.forall₂_same.mpr fun child _ => unchanged child⟩

theorem Only.refl
    {name : String}
    (unchanged : ∀ element, Changes element element)
    (element : Element) :
    Only name Changes element element := by
  rw [Only]
  split
  · exact unchanged element
  · rfl

end

theorem RearrangedQuantity.refl :
    ∀ element, RearrangedQuantity element element :=
  Rearranged.refl fun _ => rfl

theorem RearrangedPerson.refl : ∀ element, RearrangedPerson element element :=
  Rearranged.refl (Only.refl RearrangedQuantity.refl)

theorem RearrangedForm.refl : ∀ element, RearrangedForm element element :=
  Rearranged.refl (Only.refl RearrangedPerson.refl)

theorem RearrangedEntry.refl : ∀ element, RearrangedEntry element element :=
  Rearranged.refl (Only.refl RearrangedForm.refl)

theorem RearrangedDeclarations.refl :
    ∀ element, RearrangedDeclarations element element :=
  Rearranged.refl fun _ => rfl

theorem ChangesInDocument.refl
    (element : Element) :
    ChangesInDocument element element := by
  rw [ChangesInDocument]
  split
  · exact RearrangedDeclarations.refl element
  · exact RearrangedEntry.refl element
  · exact RearrangedEntry.refl element
  · rfl

/-! ## Elements of one name -/

section

variable
    {element changed : Element}
    (sameTag : changed.tag = element.tag)

include sameTag

theorem attribute?_of_sameTag (name : String) :
    changed.attribute? name = element.attribute? name := by
  rw [Element.attribute?, Element.attribute?, sameTag]

theorem requiredAttribute_of_sameTag (name : String) :
    requiredAttribute changed name = requiredAttribute element name := by
  rw [requiredAttribute, requiredAttribute, attribute?_of_sameTag sameTag,
    Element.name, Element.name, sameTag]

theorem isIgnored_of_sameTag : isIgnored changed = isIgnored element := by
  rw [isIgnored, isIgnored, attribute?_of_sameTag sameTag]

end

theorem label?_eq_named_iff
    {byName byId : List String}
    {name : String}
    (keepsOrder : name ∈ byName)
    (element : Element) :
    label? byName byId element = some (.named name) ↔ element.name = name := by
  rw [label?]
  split
  · simp
  · rename_i notByName
    have other : element.name ≠ name :=
      fun same => notByName (same ▸ keepsOrder)
    split
    · simp [other]
    · simp [other]

theorem label?_eq_identified_iff
    {byName byId : List String}
    {name : String}
    (keepsOrder : name ∈ byId)
    (notByName : name ∉ byName)
    (id : String)
    (element : Element) :
    label? byName byId element = some (.identified name id) ↔
      element.attribute? "id" = some id ∧ element.name = name := by
  rw [label?]
  split
  · rename_i isByName
    have other : element.name ≠ name := fun same => notByName (same ▸ isByName)
    simp [other]
  · split
    · simp [and_comm]
    · rename_i notById
      have other : element.name ≠ name :=
        fun same => notById (same ▸ keepsOrder)
      simp [other]

/-- Elements of some kind are changed one by one among changed elements, if
changes do not touch the kind. -/
theorem forall₂_filter
    {Changes : Element → Element → Prop}
    (isOfKind : Element → Bool)
    (keepsKind : ∀ element changed,
      Changes element changed → isOfKind changed = isOfKind element)
    {elements changed : List Element}
    (areChanged : List.Forall₂ Changes elements changed) :
    List.Forall₂ (fun element changed =>
      isOfKind element = true ∧ Changes element changed)
      (elements.filter isOfKind) (changed.filter isOfKind) := by
  apply (List.forall₂_and_left _ _).mpr
  constructor
  · intro element member
    exact (List.mem_filter.mp member).2
  · apply List.rel_filter _ areChanged
    intro element changed change
    exact Bool.eq_iff_iff.mp (keepsKind element changed change).symm

/-- Levels with an `id` are read as those under this name. -/
theorem filter_of_mapM_readNamed
    {Level : Type}
    {read : Element → Except RuleFileError Level}
    {elements : List Element}
    {entries : List (String × Level)}
    (areRead : elements.mapM (readNamed read) = .ok entries)
    (id : String) :
    List.Forall₂ (fun element entry => readNamed read element = .ok entry)
      (elements.filter fun level => level.attribute? "id" = some id)
      (entries.filter fun entry => entry.1 = id) := by
  apply List.rel_filter _ (mapM_eq_ok_iff.mp areRead)
  intro element entry isRead
  rcases bind_eq_ok_iff.mp isRead with ⟨found, hasId, others⟩
  rcases bind_eq_ok_iff.mp others with ⟨level, isLevel, all⟩
  cases all
  simp [requiredAttribute_eq_ok_iff.mp hasId]

namespace Rearranged

section

variable
    {byName byId : List String}
    {Changes : Element → Element → Prop}
    {element rearranged : Element}
    {name : String}
    (isRearranged : Rearranged byName byId Changes element rearranged)

include isRearranged

variable (keepsTag : ∀ element changed,
  Changes element changed → changed.tag = element.tag)

include keepsTag

/-- The elements of one name are changed one by one, in another order. -/
theorem exists_reordered (name : String) :
    ∃ reordered, Reordered (label? byName byId) element.elements reordered ∧
      List.Forall₂ (fun element changed =>
        element.name = name ∧ Changes element changed)
        (reordered.filter fun child => child.name == name)
          (rearranged.elementsNamed name) := by
  rcases isRearranged.elements with ⟨reordered, isReordered, areChanged⟩
  refine ⟨reordered, isReordered, ?_⟩
  have ofName := forall₂_filter (fun child => child.name == name) ?_ areChanged
  · apply ofName.imp
    intro element changed
    exact And.imp_left eq_of_beq
  · intro element changed change
    rw [Element.name, keepsTag element changed change, Element.name]

/-- Elements that keep their order by name are changed one by one
in this order. -/
theorem forall₂_named (keepsOrder : name ∈ byName) :
    List.Forall₂ (fun element changed =>
      element.name = name ∧ Changes element changed)
      (element.elementsNamed name) (rearranged.elementsNamed name) := by
  rcases isRearranged.exists_reordered keepsTag name with
    ⟨reordered, isReordered, areChanged⟩
  have kept := isReordered.kept (.named name)
  simp only [label?_eq_named_iff keepsOrder] at kept
  have sameOrder :
      (reordered.filter fun child => child.name == name) =
        element.elementsNamed name := kept
  exact sameOrder ▸ areChanged

/-- Elements that keep their order by name and `id` are changed one by one
in this order. -/
theorem forall₂_identified
    (keepsOrder : name ∈ byId)
    (notByName : name ∉ byName)
    (id : String) :
    List.Forall₂ (fun element changed =>
      element.name = name ∧ Changes element changed)
      ((element.elementsNamed name).filter fun level =>
        level.attribute? "id" = some id)
      ((rearranged.elementsNamed name).filter fun level =>
        level.attribute? "id" = some id) := by
  rcases isRearranged.exists_reordered keepsTag name with
    ⟨reordered, isReordered, areChanged⟩
  have kept := isReordered.kept (.identified name id)
  simp only [label?_eq_identified_iff keepsOrder notByName,
    Bool.decide_and] at kept
  have sameOrder :
      ((reordered.filter fun child => child.name == name).filter fun level =>
          level.attribute? "id" = some id) =
        (element.elementsNamed name).filter fun level =>
          level.attribute? "id" = some id := by
    rw [Element.elementsNamed, List.filter_filter, List.filter_filter]
    exact kept
  have ofId :=
    forall₂_filter (fun level => level.attribute? "id" = some id) ?_ areChanged
  · rw [sameOrder] at ofId
    apply ofId.imp
    intro element changed
    exact And.right
  · rintro element changed ⟨-, change⟩
    rw [attribute?_of_sameTag (keepsTag element changed change)]

/-- The elements of one name are read exactly if the rearranged ones are, if it
is so for each change. -/
theorem exists_mapM_iff
    {Result : Type}
    {read : Element → Except RuleFileError Result}
    {Rel : Result → Result → Prop}
    (each : ∀ element changed, element.name = name → Changes element changed →
      SucceedAlike Rel (read element) (read changed)) :
    (∃ results, (element.elementsNamed name).mapM read = .ok results) ↔
      ∃ results, (rearranged.elementsNamed name).mapM read = .ok results := by
  rcases isRearranged.exists_reordered keepsTag name with
    ⟨reordered, isReordered, areChanged⟩
  have perm := isReordered.perm.filter fun child => child.name == name
  have eachNamed (child changed : Element)
      (change : child.name = name ∧ Changes child changed) :
      SucceedAlike Rel (read child) (read changed) :=
    each child changed change.1 change.2
  exact exists_mapM_iff_of_perm eachNamed perm areChanged

/-- Rearranged levels are read alike, if each changed level is. -/
theorem readLevels_alike
    {Level : Type}
    {read : Element → Except RuleFileError Level}
    {merge : Level → Level → Level}
    {Same : Level → Level → Prop}
    (keepsOrder : name ∈ byId)
    (notByName : name ∉ byName)
    (each : ∀ element changed, element.name = name → Changes element changed →
      SucceedAlike Same (read element) (read changed))
    (merges : ∀ {earlier earlier' later later'},
      Same earlier earlier' → Same later later' →
      Same (merge earlier later) (merge earlier' later')) :
    SucceedAlike (Keyed.Matches Same)
      (readLevels read merge (element.elementsNamed name))
      (readLevels read merge (rearranged.elementsNamed name)) := by
  have eachNamed :
      ∀ element changed, element.name = name → Changes element changed →
        SucceedAlike (Keyed.EntriesMatch Same) (readNamed read element)
          (readNamed read changed) := by
    intro element changed named change
    rw [readNamed, readNamed,
      requiredAttribute_of_sameTag (keepsTag element changed change)]
    cases requiredAttribute element "id" with
    | error failure => exact .failure failure failure
    | ok id =>
      apply (each element changed named change).bind
      intro level level' same
      exact .success ⟨rfl, same⟩
  have entriesAlike :
      SucceedAlike
        (fun entries entries' =>
          ∀ id, List.Forall₂ (Keyed.EntriesMatch Same)
            (entries.filter fun entry => entry.1 = id)
              (entries'.filter fun entry => entry.1 = id))
        ((element.elementsNamed name).mapM (readNamed read))
        ((rearranged.elementsNamed name).mapM (readNamed read)) := by
    apply succeedAlike_iff.mpr
    constructor
    · exact isRearranged.exists_mapM_iff keepsTag eachNamed
    · intro entries entries' areRead areRead' id
      have inOrder :=
        isRearranged.forall₂_identified keepsTag keepsOrder notByName id
      apply forall₂_of_reads _ inOrder (filter_of_mapM_readNamed areRead id)
        (filter_of_mapM_readNamed areRead' id)
      rintro element changed entry entry' ⟨named, change⟩ isRead isRead'
      have alike := succeedAlike_iff.mp (eachNamed element changed named change)
      exact alike.2 entry entry' isRead isRead'
  rw [readLevels_eq, readLevels_eq]
  apply entriesAlike.map
  intro entries entries' underEach
  have nothing : (Keyed.empty : Keyed Level).Matches Same Keyed.empty :=
    fun _ => .none
  exact nothing.putAll_of_filter merges underEach

/-- Elements that keep their order by name and are not changed stay
as they are. -/
theorem elementsNamed_eq
    (keepsOrder : name ∈ byName)
    (areKept : ∀ element changed,
      element.name = name → Changes element changed →
      changed = element) :
    rearranged.elementsNamed name = element.elementsNamed name := by
  have pairs :
      List.Forall₂ Eq (element.elementsNamed name)
        (rearranged.elementsNamed name) := by
    apply (isRearranged.forall₂_named keepsTag keepsOrder).imp
    rintro child changed ⟨named, change⟩
    exact (areKept child changed named change).symm
  rw [List.forall₂_eq_eq_eq] at pairs
  exact pairs.symm

/-- Rearranged modifiers are read as the same. -/
theorem readModifiers_eq
    (keepOrder : ∀ name ∈ modifierNames, name ∈ byName)
    (areKept : ∀ element changed,
      element.name ∈ modifierNames → Changes element changed →
      changed = element) :
    readModifiers rearranged = readModifiers element := by
  have sameFirst : ∀ name ∈ modifierNames, firstNamed? rearranged name =
      firstNamed? element name := by
    intro name isModifier
    have same : rearranged.elementsNamed name = element.elementsNamed name := by
      apply isRearranged.elementsNamed_eq keepsTag (keepOrder name isModifier)
      intro child changed named
      exact areKept child changed (named ▸ isModifier)
    rw [firstNamed?, firstNamed?, same]
  rw [readModifiers, readModifiers, sameFirst "prepend" (by decide),
    sameFirst "append" (by decide), sameFirst "endlength" (by decide),
    sameFirst "mod" (by decide)]

end

end Rearranged

/-! ## Levels and entries -/

section

variable
    {Changes : Element → Element → Prop}
    {element changed : Element}
    {name : String}

theorem Only.changes
    (change : Only name Changes element changed)
    (named : element.name = name) :
    Changes element changed := by
  rwa [Only, if_pos named] at change

theorem Only.eq_of_ne
    (change : Only name Changes element changed)
    (other : element.name ≠ name) :
    changed = element := by
  rwa [Only, if_neg other] at change

/-- Changes to some elements keep the tags of all, if they keep the
tags of these. -/
theorem Only.tag_eq
    (keepsTag :
      ∀ element changed, Changes element changed → changed.tag = element.tag)
    (element changed : Element)
    (change : Only name Changes element changed) :
    changed.tag = element.tag := by
  by_cases named : element.name = name
  · exact keepsTag element changed (change.changes named)
  · rw [change.eq_of_ne named]

end

section

variable
    {byName : List String}
    {name : String}
    {Changes : Element → Element → Prop}
    {element rearranged : Element}
    (keepsTag :
      ∀ element changed, Changes element changed → changed.tag = element.tag)

include keepsTag

/-- A level whose levels beneath are rearranged has the same modifiers. -/
theorem readModifiers_of_rearranged
    (isRearranged :
      Rearranged modifierNames [name] (Only name Changes) element rearranged)
    (notModifier : name ∉ modifierNames) :
    readModifiers rearranged = readModifiers element := by
  apply isRearranged.readModifiers_eq (Only.tag_eq keepsTag)
    (fun _ isModifier => isModifier)
  intro element changed isModifier change
  exact change.eq_of_ne (ne_of_mem_of_not_mem isModifier notModifier)

/-- The levels of one name are read alike if they are rearranged. -/
theorem readLevels_of_rearranged
    (isRearranged :
      Rearranged byName [name] (Only name Changes) element rearranged)
    (notByName : name ∉ byName)
    {Level : Type}
    {read : Element → Except RuleFileError Level}
    {Same : Level → Level → Prop}
    (each : ∀ element changed, Changes element changed →
      SucceedAlike Same (read element) (read changed))
    {merge : Level → Level → Level}
    (merges : ∀ {earlier earlier' later later'},
      Same earlier earlier' → Same later later' →
      Same (merge earlier later) (merge earlier' later')) :
    SucceedAlike (Keyed.Matches Same)
      (readLevels read merge (element.elementsNamed name))
      (readLevels read merge (rearranged.elementsNamed name)) := by
  apply isRearranged.readLevels_alike
    (Only.tag_eq keepsTag) List.mem_cons_self notByName _ merges
  intro element changed named change
  exact each element changed (change.changes named)

end

section

variable {element rearranged : Element}

theorem readQuantity_alike
    (isRearranged : RearrangedQuantity element rearranged) :
    SucceedAlike Eq (readQuantity element) (readQuantity rearranged) := by
  have modifiers : readModifiers rearranged = readModifiers element := by
    apply isRearranged.readModifiers_eq
    · rintro element changed rfl
      rfl
    · exact fun _ isModifier => isModifier
    · exact fun _ _ _ same => same
  rw [readQuantity, readQuantity, modifiers,
    isIgnored_of_sameTag isRearranged.tag]
  cases readModifiers element with
  | error failure => exact .failure failure failure
  | ok modifiers => exact .success rfl

theorem readPerson_alike (isRearranged : RearrangedPerson element rearranged) :
    SucceedAlike PersonRules.Same (readPerson element)
      (readPerson rearranged) := by
  have keepsTag : ∀ element changed, RearrangedQuantity element changed →
      changed.tag = element.tag :=
    fun _ _ quantity => quantity.tag
  have modifiers :=
    readModifiers_of_rearranged keepsTag isRearranged (by decide)
  rw [readPerson, readPerson, modifiers, isIgnored_of_sameTag isRearranged.tag]
  apply SucceedAlike.bind
  · apply readLevels_of_rearranged keepsTag isRearranged (by decide)
    · exact fun _ _ quantity => readQuantity_alike quantity
    · exact fun sameFirst _ => sameFirst
  · intro quantities quantities' same
    cases readModifiers element with
    | error failure => exact .failure failure failure
    | ok modifiers => exact .success ⟨rfl, same⟩

theorem readForm_alike (isRearranged : RearrangedForm element rearranged) :
    SucceedAlike FormRules.Same (readForm element) (readForm rearranged) := by
  have keepsTag : ∀ element changed, RearrangedPerson element changed →
      changed.tag = element.tag :=
    fun _ _ person => person.tag
  have modifiers :=
    readModifiers_of_rearranged keepsTag isRearranged (by decide)
  rw [readForm, readForm, modifiers]
  apply SucceedAlike.bind
  · apply readLevels_of_rearranged keepsTag isRearranged (by decide)
    · exact fun _ _ person => readPerson_alike person
    · exact PersonRules.Same.merge
  · intro persons persons' same
    cases readModifiers element with
    | error failure => exact .failure failure failure
    | ok modifiers => exact .success ⟨rfl, same⟩

theorem readEntry_alike
    (kind : EntryKind)
    (isRearranged : RearrangedEntry element rearranged) :
    SucceedAlike Entry.Same (readEntry kind element)
      (readEntry kind rearranged) := by
  have keepsTag : ∀ element changed, RearrangedForm element changed →
      changed.tag = element.tag :=
    fun _ _ form => form.tag
  rw [readEntry, readEntry, requiredAttribute_of_sameTag isRearranged.tag,
    attribute?_of_sameTag isRearranged.tag]
  cases requiredAttribute element kind.nameAttribute with
  | error failure => exact .failure failure failure
  | ok name =>
    simp only [ok_bind]
    apply SucceedAlike.bind
    · apply readLevels_of_rearranged keepsTag isRearranged List.not_mem_nil
      · exact fun _ _ form => readForm_alike form
      · exact FormRules.Same.merge
    · intro forms forms' same
      exact .success ⟨rfl, rfl, same⟩

end

/-! ## Documents -/

theorem ChangesInDocument.tag_eq
    (element changed : Element)
    (change : ChangesInDocument element changed) :
    changed.tag = element.tag := by
  rw [ChangesInDocument] at change
  split at change
  · exact change.tag
  · exact change.tag
  · exact change.tag
  · rw [change]

theorem ChangesInDocument.entry
    {kind : EntryKind}
    {element changed : Element}
    (change : ChangesInDocument element changed)
    (named : element.name = kind.elementName) :
    RearrangedEntry element changed := by
  rw [ChangesInDocument, named] at change
  cases kind with
  | verb => exact change
  | verbSet => exact change

theorem ChangesInDocument.declarations
    {element changed : Element}
    (change : ChangesInDocument element changed)
    (named : element.name = "meta") :
    RearrangedDeclarations element changed := by
  rwa [ChangesInDocument, named] at change

/-- Entries that are read alike are read with distinct names alike. -/
theorem exists_distinct_iff
    {Failure : Type}
    {kind : EntryKind}
    {result result' : Except Failure (List (Entry kind))}
    (alike : SucceedAlike SameEntries result result') :
    (∃ entries, result = .ok entries ∧ (entries.map Entry.name).Nodup) ↔
      ∃ entries, result' = .ok entries ∧ (entries.map Entry.name).Nodup := by
  cases alike with
  | success same => simp [same.nodup_iff]
  | failure failure failure' => simp

section

variable {root rearranged : Element}

/-- Rearranged documents declare the same. -/
theorem declarations_eq
    (isRearranged : RearrangedDocument root rearranged)
    {listName : String}
    (isList : listName ∈ ["forms", "paradigms", "fallbacks"])
    (name : String) :
    declarations rearranged listName name =
      declarations root listName name := by
  have pairs :=
    isRearranged.forall₂_named ChangesInDocument.tag_eq
      (List.mem_singleton_self "meta")
  rw [declarations, declarations]
  generalize root.elementsNamed "meta" = all, rearranged.elementsNamed "meta" =
    all' at pairs
  induction pairs with
  | nil => rfl
  | @cons lists changed others others' change changes ih =>
    have isChanged := change.2.declarations change.1
    have sameLists :
        changed.elementsNamed listName = lists.elementsNamed listName := by
      apply isChanged.elementsNamed_eq _ isList
      · exact fun _ _ _ same => same
      · rintro element changed rfl
        rfl
    rw [List.flatMap_cons, List.flatMap_cons, sameLists, ih]

/-- Rearranged documents have the same entries, if they are read. -/
theorem entries_alike
    (isRearranged : RearrangedDocument root rearranged)
    (kind : EntryKind) :
    SucceedAlike SameEntries
      ((root.elementsNamed kind.elementName).mapM (readEntry kind))
      ((rearranged.elementsNamed kind.elementName).mapM (readEntry kind)) := by
  have each :
      ∀ element changed, element.name = kind.elementName →
      ChangesInDocument element changed →
        SucceedAlike Entry.Same (readEntry kind element)
          (readEntry kind changed) := by
    intro element changed named change
    exact readEntry_alike kind (change.entry named)
  apply succeedAlike_iff.mpr
  constructor
  · exact isRearranged.exists_mapM_iff ChangesInDocument.tag_eq each
  · intro entries entries' areRead areRead'
    rcases isRearranged.exists_reordered ChangesInDocument.tag_eq
        kind.elementName with
      ⟨reordered, isReordered, areChanged⟩
    have perm :=
      isReordered.perm.filter fun child => child.name == kind.elementName
    rcases List.perm_comp_forall₂ perm (mapM_eq_ok_iff.mp areRead) with
      ⟨moved, movedRead, moves⟩
    refine ⟨moved, moves,
      forall₂_of_reads ?_ areChanged movedRead (mapM_eq_ok_iff.mp areRead')⟩
    rintro element changed entry entry' ⟨named, change⟩ isRead isRead'
    exact (succeedAlike_iff.mp (each element changed named change)).2 entry
      entry' isRead isRead'

/-- A rearranged document is read exactly if the document is. -/
theorem exists_ofElement_iff_of_rearranged
    (isRearranged : RearrangedDocument root rearranged) :
    (∃ book, RuleBook.ofElement root = .ok book) ↔
      ∃ book, RuleBook.ofElement rearranged = .ok book := by
  have sameName : rearranged.name = root.name :=
    congrArg Markup.Tag.name isRearranged.tag
  have verbs := exists_distinct_iff (entries_alike isRearranged .verb)
  have verbSets := exists_distinct_iff (entries_alike isRearranged .verbSet)
  simp only [EntryKind.elementName] at verbs verbSets
  rw [exists_ofElement_iff, exists_ofElement_iff, sameName,
    declarations_eq isRearranged (by decide),
    declarations_eq isRearranged (by decide),
    declarations_eq isRearranged (by decide), verbs, verbSets]

/-- And then it is read as the same book. -/
theorem same_of_rearranged
    (isRearranged : RearrangedDocument root rearranged)
    {book book' : RuleBook}
    (isRead : RuleBook.ofElement root = .ok book)
    (isRead' : RuleBook.ofElement rearranged = .ok book') :
    book.Same book' := by
  rcases ofElement_eq_ok_iff.mp isRead with
    ⟨-, forms, paradigms, fallbacks, verbs, verbSets⟩
  rcases ofElement_eq_ok_iff.mp isRead' with
    ⟨-, forms', paradigms', fallbacks', verbs', verbSets'⟩
  constructor
  · rw [declarations_eq isRearranged (by decide), forms] at forms'
    exact Except.ok.inj forms'
  · rw [declarations_eq isRearranged (by decide), paradigms] at paradigms'
    exact Except.ok.inj paradigms'
  · rw [declarations_eq isRearranged (by decide), fallbacks] at fallbacks'
    exact Except.ok.inj fallbacks'
  · have alike := succeedAlike_iff.mp (entries_alike isRearranged .verb)
    exact (alike.2 _ _ verbs verbs').rel_find? book.verbs_distinct
  · have alike := succeedAlike_iff.mp (entries_alike isRearranged .verbSet)
    exact (alike.2 _ _ verbSets verbSets').rel_find? book.verbSets_distinct

end

end Inflection.Rules

namespace Inflection

open Inflection.Rules
open Inflection.Markup (Element)

/-- Only the order of elements with the same label matters in a document:
rearranged, it is read exactly if it was read before, and then as the same book,
by which every verb is conjugated as before. -/
theorem ofElement_of_rearranged
    {root rearranged : Element}
    (isRearranged : RearrangedDocument root rearranged) :
    ((∃ book, RuleBook.ofElement root = .ok book) ↔
      ∃ book, RuleBook.ofElement rearranged = .ok book) ∧
    ∀ book book',
      RuleBook.ofElement root = .ok book →
      RuleBook.ofElement rearranged = .ok book' →
        book.Same book' ∧
        ∀ language filter inflector,
          Inflector.ofBook language book filter = .ok inflector →
            ∃ inflector',
              Inflector.ofBook language book' filter = .ok inflector' ∧
              ∀ verb, inflector'.conjugate verb = inflector.conjugate verb := by
  constructor
  · exact exists_ofElement_iff_of_rearranged isRearranged
  · intro book book' isRead isRead'
    have same := same_of_rearranged isRearranged isRead isRead'
    refine ⟨same, ?_⟩
    intro language filter inflector made
    rcases Inflector.parts_of_ofBook made with ⟨-, isBook, -⟩
    rcases Inflector.exists_ofBook_of_declares_same made same.forms.symm
        same.paradigms.symm with
      ⟨inflector', made', isBook', sameSelection⟩
    exact ⟨inflector', made',
      conjugate_of_same_book same isBook isBook' sameSelection⟩

/-- A verb-set with rules for two persons of a form, in the given order. -/
def verbSetEr (persons : List Element) : Element :=
  plainElement "verbset" [("id", "er")]
    [plainElement "group" [("id", "prs")] persons]

/-- Two persons of a form. -/
def personsOfForm : List Element :=
  [plainElement "pdgmgroup" [("id", "1")] [],
    plainElement "pdgmgroup" [("id", "2"), ("ignore", "1")] []]

/-- A verb that inherits from the verb-set. -/
def verbAimer : Element :=
  plainElement "verb" [("word", "aimer"), ("inherit", "er")] []

/-- A document in which the verb stands behind the verb-set is rearranged to one
in which it stands in front, and in which the persons stand in another order. -/
theorem ofElement_of_rearranged_verb_first :
    RearrangedDocument
      (plainElement "verbs" [] [verbSetEr personsOfForm, verbAimer])
      (plainElement "verbs" [] [verbAimer, verbSetEr personsOfForm.reverse]) ∧
    ∃ book book',
      RuleBook.ofElement (plainElement "verbs" [] [verbSetEr personsOfForm,
          verbAimer]) = .ok book ∧
      RuleBook.ofElement
        (plainElement "verbs" [] [verbAimer, verbSetEr personsOfForm.reverse]) =
        .ok book' ∧
      book.Same book' := by
  have group :
      RearrangedForm (plainElement "group" [("id", "prs")] personsOfForm)
        (plainElement "group" [("id", "prs")] personsOfForm.reverse) := by
    constructor
    · rfl
    · refine ⟨personsOfForm.reverse, Reordered.swap (by decide) [] [], ?_⟩
      exact List.forall₂_same.mpr fun person _ =>
        Only.refl RearrangedPerson.refl person
  have verbSet : RearrangedEntry (verbSetEr personsOfForm)
      (verbSetEr personsOfForm.reverse) := by
    constructor
    · rfl
    · exact ⟨[plainElement "group" [("id", "prs")] personsOfForm], .refl _,
        .cons group .nil⟩
  have document :
      RearrangedDocument
        (plainElement "verbs" [] [verbSetEr personsOfForm, verbAimer])
        (plainElement "verbs" [] [verbAimer,
            verbSetEr personsOfForm.reverse]) := by
    constructor
    · rfl
    · refine ⟨[verbAimer, verbSetEr personsOfForm],
        Reordered.swap (by decide) [] [], ?_⟩
      exact .cons (ChangesInDocument.refl verbAimer) (.cons verbSet .nil)
  have isRead :
      ∃ book, RuleBook.ofElement
        (plainElement "verbs" [] [verbSetEr personsOfForm, verbAimer]) =
        .ok book :=
    ⟨_, rfl⟩
  rcases isRead with ⟨book, isRead⟩
  rcases ofElement_of_rearranged document with ⟨readAlike, sameBooks⟩
  rcases readAlike.mp ⟨book, isRead⟩ with ⟨book', isRead'⟩
  exact ⟨document, book, book', isRead, isRead',
    (sameBooks book book' isRead isRead').1⟩

end Inflection
