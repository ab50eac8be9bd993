import Inflection.Proofs.DocumentOrder
import Mathlib.Data.List.TakeWhile

/-!
# The defects of a rule file

All defects of a document are listed here, in the order in which one comes to
them: an entry from its name inward, where the levels beneath a level come
before its own modifiers, and the repetition of a name last.  Nothing is read
for that, and nothing put together; whether a name is taken is told from the
elements in front.

Reading stops at the first defect of this list, and it succeeds if
the list is empty.
-/

namespace Inflection.Rules

open Inflection.Text
open Inflection.Markup (Element Node)

/-! ## Defects -/

/-- The defect of an element that lacks an attribute. -/
def attributeDefects (elementName attributeName : String) (element : Element) :
    List RuleFileError :=
  if (element.attribute? attributeName).isSome then []
  else [.lacksAttribute elementName attributeName]

/-- The defect of an attribute that is no pattern. -/
def patternDefects
    (attributeName : String)
    (element : Element) :
    List RuleFileError :=
  match element.attribute? attributeName with
  | none => []
  | some source =>
    if (Pattern.ofSource? source).isSome then [] else [.invalidPattern source]

/-- The defect of a `match` that names no mode. -/
def modeDefects (element : Element) : List RuleFileError :=
  match element.attribute? "match" with
  | none => []
  | some mode =>
    if mode = "first" ∨ mode = "all" then [] else [.noMatchMode mode]

/-- The defects of a `mod`. -/
def replacementDefects (element : Element) : List RuleFileError :=
  attributeDefects "mod" "match" element ++ modeDefects element ++
    attributeDefects "mod" "search" element ++ patternDefects "search" element

/-- The defects of the modifiers of a level.  Only the first `mod` counts. -/
def modifierDefects (level : Element) : List RuleFileError :=
  (level.elementsNamed "mod").head?.elim [] replacementDefects

/-- The defects of a level: its missing `id`, those of the levels beneath it,
and then those of its own modifiers. -/
def levelDefects
    (name : String)
    (beneath : Element → List RuleFileError)
    (level : Element) :
    List RuleFileError :=
  attributeDefects name "id" level ++ beneath level ++ modifierDefects level

/-- The defects of the rules for a quantity. -/
def quantityDefects : Element → List RuleFileError :=
  levelDefects "paradigm" fun _ => []

/-- The defects of the rules for a person. -/
def personDefects : Element → List RuleFileError :=
  levelDefects "pdgmgroup" fun level =>
    (level.elementsNamed "paradigm").flatMap quantityDefects

/-- The defects of the rules for a form. -/
def formDefects : Element → List RuleFileError :=
  levelDefects "group" fun level =>
    (level.elementsNamed "pdgmgroup").flatMap personDefects

/-- Tells that an element is an entry of this kind with this name. -/
def NamesEntry (kind : EntryKind) (name : String) (element : Element) : Prop :=
  element.name = kind.elementName ∧
    element.attribute? kind.nameAttribute = some name

instance (kind : EntryKind) (name : String) (element : Element) :
    Decidable (NamesEntry kind name element) :=
  inferInstanceAs (Decidable (_ ∧ _))

/-- The defect of an entry whose name is that of an entry of the same kind in
front of it. -/
def repetitionDefects
    (kind : EntryKind)
    (earlier : List Element)
    (element : Element) :
    List RuleFileError :=
  match element.attribute? kind.nameAttribute with
  | none => []
  | some name =>
    if ∃ other ∈ earlier, NamesEntry kind name other then [kind.repeated name]
    else []

/-- The defects of an entry. -/
def entryDefects
    (kind : EntryKind)
    (earlier : List Element)
    (element : Element) :
    List RuleFileError :=
  attributeDefects kind.elementName kind.nameAttribute element ++
    (element.elementsNamed "group").flatMap formDefects ++
    repetitionDefects kind earlier element

/-- Tells whether an element starts with a text that has a character which
is not blank. -/
def startsWithText (element : Element) : Bool :=
  match element.children with
  | .text content :: _ => content.toList.any fun char => !isBlank char
  | _ => false

/-- The defects of a list of declarations. -/
def declarationDefects (element : Element) : List RuleFileError :=
  match element.name with
  | "forms" =>
    (element.elementsNamed "form").flatMap fun form =>
      if startsWithText form then [] else [.lacksText "form"]
  | "paradigms" =>
    (element.elementsNamed "paradigm").flatMap fun paradigm =>
      attributeDefects "paradigm" "person" paradigm ++
        attributeDefects "paradigm" "quant" paradigm
  | "fallbacks" =>
    (element.elementsNamed "fallback").flatMap fun fallback =>
      attributeDefects "fallback" "regex" fallback ++
        attributeDefects "fallback" "ref" fallback ++
        patternDefects "regex" fallback
  | _ => []

/-- The defects of an element directly beneath the outermost one, behind
some others. -/
def elementDefects
    (earlier : List Element)
    (element : Element) :
    List RuleFileError :=
  match element.name with
  | "meta" => element.elements.flatMap declarationDefects
  | "verbset" => entryDefects .verbSet earlier element
  | "verb" => entryDefects .verb earlier element
  | _ => []

/-- The defects of elements directly beneath the outermost one, behind
some others. -/
def elementsDefects (earlier : List Element) : List Element → List RuleFileError
  | [] => []
  | element :: rest =>
    elementDefects earlier element ++
      elementsDefects (earlier ++ [element]) rest

/-- The defects of a document. -/
def documentDefects (root : Element) : List RuleFileError :=
  if root.name = "verbs" then elementsDefects [] root.elements
  else [.wrongRoot root.name]

/-! ## Stopping at the first defect -/

/-- Tells that a result is an error, the first of some defects, or no error if
there is no defect. -/
inductive StopsAtFirst {Result : Type} :
    Except RuleFileError Result → List RuleFileError → Prop where
  | success (result : Result) : StopsAtFirst (.ok result) []
  | failure (defect : RuleFileError) (further : List RuleFileError) :
    StopsAtFirst (.error defect) (defect :: further)

namespace StopsAtFirst

section

variable
    {Item Result State : Type}
    {first : Except RuleFileError Result}
    {defects further : List RuleFileError}

theorem exists_ok_iff (stops : StopsAtFirst first defects) :
    (∃ result, first = .ok result) ↔ defects = [] := by
  cases stops with
  | success result => simp
  | failure defect further => simp

theorem error_iff
    (stops : StopsAtFirst first defects)
    (defect : RuleFileError) :
    first = .error defect ↔ defects.head? = some defect := by
  cases stops with
  | success result => simp
  | failure defect further => simp

/-- What is done afterwards comes to its defects only without any before. -/
theorem bind
    {next : Result → Except RuleFileError State}
    (stops : StopsAtFirst first defects)
    (onward :
      ∀ result, first = .ok result → StopsAtFirst (next result) further) :
    StopsAtFirst (first >>= next) (defects ++ further) := by
  cases stops with
  | success result => exact onward result rfl
  | failure defect others => exact .failure defect (others ++ further)

theorem map (stops : StopsAtFirst first defects) (change : Result → State) :
    StopsAtFirst (first.map change) defects := by
  cases stops with
  | success result => exact .success (change result)
  | failure defect further => exact .failure defect further

/-- Items that are read one by one come to the first defect among theirs. -/
theorem mapM
    {read : Item → Except RuleFileError Result}
    {defectsOf : Item → List RuleFileError}
    {items : List Item}
    (each : ∀ item ∈ items, StopsAtFirst (read item) (defectsOf item)) :
    StopsAtFirst (items.mapM read) (items.flatMap defectsOf) := by
  induction items with
  | nil => exact .success []
  | cons item rest ih =>
    rw [List.mapM_cons, List.flatMap_cons]
    refine (each item (List.mem_cons_self ..)).bind fun result _ => ?_
    exact (ih fun other later => each other (List.mem_cons_of_mem _ later)).map
      (result :: ·)

/-- Steps whose defects do not depend on what was before come to the
first among them. -/
theorem foldlM
    {step : State → Item → Except RuleFileError State}
    {defectsOf : Item → List RuleFileError}
    {items : List Item}
    (each : ∀ state, ∀ item ∈ items,
      StopsAtFirst (step state item) (defectsOf item))
    (state : State) :
    StopsAtFirst (items.foldlM step state) (items.flatMap defectsOf) := by
  induction items generalizing state with
  | nil => exact .success state
  | cons item rest ih =>
    rw [List.foldlM_cons, List.flatMap_cons]
    refine (each state item (List.mem_cons_self ..)).bind fun next _ => ?_
    exact ih (fun state other later =>
      each state other (List.mem_cons_of_mem _ later)) next

end

end StopsAtFirst

/-! ## Attributes and modifiers -/

theorem name_of_mem_elementsNamed
    {element child : Element}
    {name : String}
    (member : child ∈ element.elementsNamed name) :
    child.name = name := by
  have named := (List.mem_filter.mp member).2
  exact eq_of_beq named

theorem stopsAtFirst_requiredAttribute
    {element : Element}
    {elementName : String}
    (named : element.name = elementName)
    (attributeName : String) :
    StopsAtFirst (requiredAttribute element attributeName)
      (attributeDefects elementName attributeName element) := by
  unfold requiredAttribute attributeDefects
  cases element.attribute? attributeName with
  | none =>
    rw [← named]
    exact .failure _ []
  | some value => exact .success value

theorem stopsAtFirst_compilePattern
    {element : Element}
    {attributeName source : String}
    (given : element.attribute? attributeName = some source) :
    StopsAtFirst (compilePattern source)
      (patternDefects attributeName element) := by
  unfold compilePattern patternDefects
  simp only [given]
  cases Pattern.ofSource? source with
  | none => exact .failure _ []
  | some pattern => exact .success pattern

/-- The mode of a replacement is looked up by its name. -/
theorem named?_eq_none_iff {name : String} :
    MatchMode.named? name = none ↔ ¬ (name = "first" ∨ name = "all") := by
  unfold MatchMode.named?
  by_cases isFirst : name = "first"
  · simp [isFirst]
  · by_cases isAll : name = "all"
    · simp [isAll]
    · simp [isFirst, isAll]

theorem stopsAtFirst_readReplacement
    {element : Element}
    (named : element.name = "mod") :
    StopsAtFirst (readReplacement element) (replacementDefects element) := by
  unfold replacementDefects
  rw [List.append_assoc, List.append_assoc]
  refine (stopsAtFirst_requiredAttribute named "match").bind
    fun modeName given => ?_
  have isMode := requiredAttribute_eq_ok_iff.mp given
  cases found : MatchMode.named? modeName with
  | none =>
    have unknown : modeDefects element = [.noMatchMode modeName] := by
      simp only [modeDefects, isMode, if_neg (named?_eq_none_iff.mp found)]
    rw [unknown]
    exact .failure _ _
  | some mode =>
    have known : modeDefects element = [] := by
      have isKnown : modeName = "first" ∨ modeName = "all" := by
        by_contra unknown
        rw [named?_eq_none_iff.mpr unknown] at found
        cases found
      simp only [modeDefects, isMode, if_pos isKnown]
    rw [known, List.nil_append]
    refine (stopsAtFirst_requiredAttribute named "search").bind
      fun source isSource => ?_
    exact (stopsAtFirst_compilePattern
      (requiredAttribute_eq_ok_iff.mp isSource)).map _

theorem stopsAtFirst_readModifiers (level : Element) :
    StopsAtFirst (readModifiers level) (modifierDefects level) := by
  unfold readModifiers modifierDefects firstNamed?
  cases isFirst : (level.elementsNamed "mod").head? with
  | none => exact .success _
  | some element =>
    have named := name_of_mem_elementsNamed (List.mem_of_head? isFirst)
    exact ((stopsAtFirst_readReplacement named).map some).map _

/-! ## Levels and entries -/

section

variable
    {Level Beneath : Type}
    {level : Element}
    {read : Element → Except RuleFileError Level}
    {merge : Level → Level → Level}

/-- The modifiers of a level are read behind the levels beneath it. -/
theorem stopsAtFirst_modifiersBehind
    {levels : Except RuleFileError Beneath}
    {defects : List RuleFileError}
    (stops : StopsAtFirst levels defects)
    (make : Beneath → Modifiers → Level) :
    StopsAtFirst
      (do
        let levels ← levels
        let modifiers ← readModifiers level
        .ok (make levels modifiers))
      (defects ++ modifierDefects level) :=
  stops.bind fun levels _ =>
    (stopsAtFirst_readModifiers level).map (make levels)

/-- A level is read behind its `id`. -/
theorem stopsAtFirst_readNamed
    {name : String}
    (named : level.name = name)
    {beneath : Element → List RuleFileError}
    (stops :
      StopsAtFirst (read level) (beneath level ++ modifierDefects level)) :
    StopsAtFirst (readNamed read level) (levelDefects name beneath level) := by
  unfold readNamed levelDefects
  rw [List.append_assoc]
  refine (stopsAtFirst_requiredAttribute named "id").bind fun id _ => ?_
  exact stops.map (id, ·)

/-- Levels are read one by one, and put together without defect. -/
theorem stopsAtFirst_readLevels
    {name : String}
    {defectsOf : Element → List RuleFileError}
    (each :
      ∀ child, child.name = name →
      StopsAtFirst (readNamed read child) (defectsOf child)) :
    StopsAtFirst (readLevels read merge (level.elementsNamed name))
      ((level.elementsNamed name).flatMap defectsOf) := by
  rw [readLevels_eq]
  refine StopsAtFirst.map (StopsAtFirst.mapM fun child member => ?_) _
  exact each child (name_of_mem_elementsNamed member)

end

theorem stopsAtFirst_readQuantity
    (level : Element)
    (named : level.name = "paradigm") :
    StopsAtFirst (readNamed readQuantity level) (quantityDefects level) :=
  stopsAtFirst_readNamed named ((stopsAtFirst_readModifiers level).map _)

theorem stopsAtFirst_readPerson
    (level : Element)
    (named : level.name = "pdgmgroup") :
    StopsAtFirst (readNamed readPerson level) (personDefects level) :=
  stopsAtFirst_readNamed named
    (stopsAtFirst_modifiersBehind
      (stopsAtFirst_readLevels stopsAtFirst_readQuantity) _)

theorem stopsAtFirst_readForm (level : Element) (named : level.name = "group") :
    StopsAtFirst (readNamed readForm level) (formDefects level) :=
  stopsAtFirst_readNamed named
    (stopsAtFirst_modifiersBehind
      (stopsAtFirst_readLevels stopsAtFirst_readPerson) _)

theorem stopsAtFirst_readEntry
    {kind : EntryKind}
    {element : Element}
    (named : element.name = kind.elementName) :
    StopsAtFirst (readEntry kind element)
      (attributeDefects kind.elementName kind.nameAttribute element ++
        (element.elementsNamed "group").flatMap formDefects) := by
  refine (stopsAtFirst_requiredAttribute named kind.nameAttribute).bind
    fun name _ => ?_
  exact (stopsAtFirst_readLevels stopsAtFirst_readForm).map _

/-! ## Declarations -/

/-- Nothing is left of a text without the blanks around it exactly if it is
blank throughout. -/
theorem trim_eq_nil_iff (chars : List Char) :
    trim chars = [] ↔ ∀ char ∈ chars, isBlank char = true := by
  unfold trim
  rw [List.reverse_eq_nil_iff, List.dropWhile_eq_nil_iff]
  simp only [List.mem_reverse]
  constructor
  · intro restBlank char member
    rw [← List.takeWhile_append_dropWhile (p := isBlank) (l := chars),
      List.mem_append] at member
    rcases member with atStart | inRest
    · exact List.mem_takeWhile_imp atStart
    · exact restBlank char inRest
  · intro allBlank char inRest
    exact allBlank char ((List.dropWhile_suffix isBlank).subset inRest)

theorem trim_leadingText?_eq_nil_iff (form : Element) :
    trim ((form.leadingText?.getD "").toList) = [] ↔
      startsWithText form = false := by
  rw [trim_eq_nil_iff]
  rcases form with ⟨tag, children⟩
  cases children with
  | nil => simp [Element.leadingText?, startsWithText]
  | cons node rest => cases node <;> simp [Element.leadingText?, startsWithText]

theorem stopsAtFirst_readFormName
    (form : Element)
    (named : form.name = "form") :
    StopsAtFirst (readFormName form)
      (if startsWithText form then [] else [.lacksText "form"]) := by
  unfold readFormName
  simp only [List.isEmpty_iff, trim_leadingText?_eq_nil_iff, named]
  cases startsWithText form with
  | false => exact .failure _ []
  | true => exact .success _

theorem stopsAtFirst_readParadigm
    (paradigm : Element)
    (named : paradigm.name = "paradigm") :
    StopsAtFirst (readParadigm paradigm)
      (attributeDefects "paradigm" "person" paradigm ++
        attributeDefects "paradigm" "quant" paradigm) := by
  refine (stopsAtFirst_requiredAttribute named "person").bind fun person _ => ?_
  exact (stopsAtFirst_requiredAttribute named "quant").map _

theorem stopsAtFirst_readFallback
    (fallback : Element)
    (named : fallback.name = "fallback") :
    StopsAtFirst (readFallback fallback)
      (attributeDefects "fallback" "regex" fallback ++
        attributeDefects "fallback" "ref" fallback ++
        patternDefects "regex" fallback) := by
  rw [List.append_assoc]
  refine (stopsAtFirst_requiredAttribute named "regex").bind
    fun source isSource => ?_
  refine (stopsAtFirst_requiredAttribute named "ref").bind fun target _ => ?_
  exact (stopsAtFirst_compilePattern
    (requiredAttribute_eq_ok_iff.mp isSource)).map _

/-- Declarations are read one by one, and added without defect. -/
theorem stopsAtFirst_addRead
    {Declared : Type}
    {read : Element → Except RuleFileError Declared}
    {defectsOf : Element → List RuleFileError}
    {name : String}
    (each :
      ∀ child, child.name = name →
      StopsAtFirst (read child) (defectsOf child))
    (element : Element)
    (add : List Declared → RuleBook) :
    StopsAtFirst
      (do
        let declared ← (element.elementsNamed name).mapM read
        .ok (add declared))
      ((element.elementsNamed name).flatMap defectsOf) :=
  (StopsAtFirst.mapM fun child member =>
    each child (name_of_mem_elementsNamed member)).map add

theorem stopsAtFirst_addDeclarations (book : RuleBook) (element : Element) :
    StopsAtFirst (book.addDeclarations element)
      (declarationDefects element) := by
  unfold RuleBook.addDeclarations declarationDefects
  by_cases isForms : element.name = "forms"
  · simp only [isForms]
    exact stopsAtFirst_addRead stopsAtFirst_readFormName element book.addForms
  by_cases isParadigms : element.name = "paradigms"
  · simp only [isParadigms]
    exact stopsAtFirst_addRead stopsAtFirst_readParadigm element
      book.addParadigms
  by_cases isFallbacks : element.name = "fallbacks"
  · simp only [isFallbacks]
    exact stopsAtFirst_addRead stopsAtFirst_readFallback element
      book.addFallbacks
  -- An element of another name declares nothing.
  simp only
  exact .success book

/-! ## Documents -/

/-- Tells that the names taken in a book are those of the entries among
some elements. -/
def TakesNamesOf (book : RuleBook) (elements : List Element) : Prop :=
  ∀ kind name,
    name ∈ (book.entries kind).map Entry.name ↔
      ∃ element ∈ elements, NamesEntry kind name element

theorem takesNamesOf_empty : TakesNamesOf .empty [] := by
  intro kind name
  cases kind <;> simp [RuleBook.entries, RuleBook.empty]

theorem namesEntry_of_readEntry
    {kind : EntryKind}
    {element : Element}
    {entry : Entry kind}
    (named : element.name = kind.elementName)
    (isRead : readEntry kind element = .ok entry) :
    NamesEntry kind entry.name element := by
  rcases readEntry_eq_ok_iff.mp isRead with ⟨name, levels, isName, -, rfl⟩
  exact ⟨named, isName⟩

/-- An element that is added takes the name that it has, if it is an entry. -/
theorem TakesNamesOf.addElement
    {book next : RuleBook}
    {earlier : List Element}
    {element : Element}
    (takes : TakesNamesOf book earlier)
    (added : book.addElement element = .ok next) :
    TakesNamesOf next (earlier ++ [element]) := by
  intro kind name
  simp only [List.mem_append, List.mem_singleton, or_and_right, exists_or,
    exists_eq_left, ← takes kind name]
  rcases entries_of_addElement added kind with
    ⟨isOfKind, entry, isEntry, more⟩ | ⟨isOther, same⟩
  · rcases namesEntry_of_readEntry isOfKind isEntry with ⟨-, isName⟩
    rw [more, List.map_append, List.mem_append, List.map_singleton,
      List.mem_singleton, NamesEntry, isName]
    simp [isOfKind, eq_comm]
  · rw [same, NamesEntry]
    simp [isOther]

/-- The defect of adding an entry to a book: its name is taken. -/
def takenDefects
    (book : RuleBook)
    {kind : EntryKind}
    (entry : Entry kind) :
    List RuleFileError :=
  if entry.name ∈ (book.entries kind).map Entry.name then
    [kind.repeated entry.name] else []

theorem stopsAtFirst_addEntry
    {book : RuleBook}
    {kind : EntryKind}
    (entry : Entry kind) :
    StopsAtFirst (book.addEntry entry) (takenDefects book entry) := by
  unfold takenDefects
  by_cases taken : entry.name ∈ (book.entries kind).map Entry.name
  · rw [RuleBook.addEntry_of_taken taken, if_pos taken]
    exact .failure _ []
  · rw [RuleBook.addEntry_of_new taken, if_neg taken]
    exact .success _

/-- An entry is added behind reading it, unless its name is that of an entry
in front. -/
theorem stopsAtFirst_readAndAddEntry
    {kind : EntryKind}
    {book : RuleBook}
    {earlier : List Element}
    (takes : TakesNamesOf book earlier)
    {element : Element}
    (named : element.name = kind.elementName) :
    StopsAtFirst (readEntry kind element >>= book.addEntry)
      (entryDefects kind earlier element) := by
  unfold entryDefects
  refine (stopsAtFirst_readEntry named).bind fun entry isEntry => ?_
  rcases namesEntry_of_readEntry named isEntry with ⟨-, isName⟩
  have same :
      takenDefects book entry = repetitionDefects kind earlier element := by
    simp only [takenDefects, repetitionDefects, isName, takes kind entry.name]
  exact same ▸ stopsAtFirst_addEntry entry

theorem stopsAtFirst_addElement
    {book : RuleBook}
    {earlier : List Element}
    (takes : TakesNamesOf book earlier)
    (element : Element) :
    StopsAtFirst (book.addElement element)
      (elementDefects earlier element) := by
  unfold RuleBook.addElement elementDefects
  by_cases isMeta : element.name = "meta"
  · simp only [isMeta]
    exact StopsAtFirst.foldlM
      (fun state item _ => stopsAtFirst_addDeclarations state item) book
  by_cases isVerbSet : element.name = "verbset"
  · simp only [isVerbSet]
    exact stopsAtFirst_readAndAddEntry takes isVerbSet
  by_cases isVerb : element.name = "verb"
  · simp only [isVerb]
    exact stopsAtFirst_readAndAddEntry takes isVerb
  -- An element of another name is skipped.
  simp only
  exact .success book

theorem stopsAtFirst_addElements
    {book : RuleBook}
    {earlier : List Element}
    (takes : TakesNamesOf book earlier)
    (elements : List Element) :
    StopsAtFirst (elements.foldlM RuleBook.addElement book)
      (elementsDefects earlier elements) := by
  induction elements generalizing book earlier with
  | nil => exact .success book
  | cons element rest ih =>
    rw [List.foldlM_cons, elementsDefects]
    refine (stopsAtFirst_addElement takes element).bind fun next added => ?_
    exact ih (takes.addElement added)

/-- A document is read if it has no defect, and otherwise the error is its
first defect. -/
theorem ofElement_stops_at_first_defect (root : Element) :
    ((∃ book, RuleBook.ofElement root = .ok book) ↔ documentDefects root = []) ∧
    ∀ defect, RuleBook.ofElement root = .error defect ↔
      (documentDefects root).head? = some defect := by
  have stops :
      StopsAtFirst (RuleBook.ofElement root) (documentDefects root) := by
    unfold RuleBook.ofElement documentDefects
    split
    · exact stopsAtFirst_addElements takesNamesOf_empty root.elements
    · exact .failure _ []
  exact ⟨stops.exists_ok_iff, stops.error_iff⟩

end Inflection.Rules
