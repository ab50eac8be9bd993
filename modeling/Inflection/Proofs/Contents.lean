import Inflection.Proofs.DocumentOrder

/-!
# What a book is read from

A document is read element by element, and all that is read goes into one book.
Seen from its end, each list of the book is read from elements of one kind, in
document order: the forms, the paradigms and the fallbacks from the sections of
all lists of declarations, and the verbs and the verb-sets from the entries
among them.  What stands between these elements does not matter, nor how the
kinds are mixed.

So a document is read exactly if each of these elements is, and no verb and no
verb-set is repeated.
-/

namespace Inflection.Rules

open Inflection.Markup (Element)

/-- Some elements of an element, if it has this name. -/
def ifNamed
    (name : String)
    (elements : Element → List Element)
    (element : Element) :
    List Element :=
  if element.name = name then elements element else []

/-- The elements that the lists of a book are read from. -/
structure Contents where
  forms : List Element := []
  paradigms : List Element := []
  fallbacks : List Element := []
  verbs : List Element := []
  verbSets : List Element := []

namespace Contents

/-- The contents of some elements, one behind the other. -/
def join
    (contentsOf : Element → Contents)
    (elements : List Element) :
    Contents where
  forms := elements.flatMap fun element => (contentsOf element).forms
  paradigms := elements.flatMap fun element => (contentsOf element).paradigms
  fallbacks := elements.flatMap fun element => (contentsOf element).fallbacks
  verbs := elements.flatMap fun element => (contentsOf element).verbs
  verbSets := elements.flatMap fun element => (contentsOf element).verbSets

/-- The contents of a list of declarations. -/
def ofDeclarations (element : Element) : Contents where
  forms := ifNamed "forms" (fun list => list.elementsNamed "form") element
  paradigms :=
    ifNamed "paradigms" (fun list => list.elementsNamed "paradigm") element
  fallbacks :=
    ifNamed "fallbacks" (fun list => list.elementsNamed "fallback") element

/-- The contents of an element directly beneath the outermost one. -/
def ofElement (element : Element) : Contents where
  forms :=
    ifNamed "meta" (fun lists =>
      (join ofDeclarations lists.elements).forms) element
  paradigms :=
    ifNamed "meta" (fun lists =>
      (join ofDeclarations lists.elements).paradigms) element
  fallbacks :=
    ifNamed "meta" (fun lists =>
      (join ofDeclarations lists.elements).fallbacks) element
  verbs := ifNamed "verb" (fun entry => [entry]) element
  verbSets := ifNamed "verbset" (fun entry => [entry]) element

/-- The contents of a document. -/
def ofDocument (root : Element) : Contents :=
  join ofElement root.elements

end Contents

/-! ## Lists that grow by what is read -/

/-- Tells that a list grows by what some elements are read as. -/
def GrowsBy {Item : Type}
    (read : Element → Except RuleFileError Item)
    (elements : List Element)
    (before after : List Item) : Prop :=
  ∃ items, elements.mapM read = .ok items ∧ after = before ++ items

section

variable
    {Item : Type}
    {read : Element → Except RuleFileError Item}
    {before after : List Item}

@[simp]
theorem growsBy_nil : GrowsBy read [] before after ↔ after = before := by
  constructor
  · rintro ⟨items, nothing, rfl⟩
    cases nothing
    exact List.append_nil before
  · rintro rfl
    exact ⟨[], rfl, (List.append_nil _).symm⟩

theorem growsBy_empty {elements : List Element} :
    GrowsBy read elements [] after ↔ elements.mapM read = .ok after := by
  simp [GrowsBy]

theorem growsBy_singleton {element : Element} :
    GrowsBy read [element] before after ↔
      ∃ item, read element = .ok item ∧ after = before ++ [item] := by
  rw [GrowsBy, List.mapM_cons]
  cases read element with
  | error failure => simp
  | ok item => simp [pure, Except.pure]

theorem growsBy_append {elements further : List Element} :
    GrowsBy read (elements ++ further) before after ↔
      ∃ middle, GrowsBy read elements before middle ∧
        GrowsBy read further middle after := by
  unfold GrowsBy
  rw [List.mapM_append]
  constructor
  · rintro ⟨items, areRead, rfl⟩
    rcases bind_eq_ok_iff.mp areRead with ⟨first, firstRead, others⟩
    rcases bind_eq_ok_iff.mp others with ⟨second, secondRead, all⟩
    cases all
    exact ⟨before ++ first, ⟨first, firstRead, rfl⟩, second, secondRead,
      by simp⟩
  · rintro ⟨_, ⟨first, firstRead, rfl⟩, second, secondRead, rfl⟩
    refine ⟨first ++ second, ?_, by simp⟩
    rw [firstRead, secondRead]
    rfl

end

namespace Contents

/-- Tells that a book grows to another by what its contents are read as. -/
structure Extend (contents : Contents) (book next : RuleBook) : Prop where
  forms : GrowsBy readFormName contents.forms book.forms next.forms
  paradigms :
    GrowsBy readParadigm contents.paradigms book.paradigms next.paradigms
  fallbacks :
    GrowsBy readFallback contents.fallbacks book.fallbacks next.fallbacks
  verbs : GrowsBy (readEntry .verb) contents.verbs book.verbs next.verbs
  verbSets :
    GrowsBy (readEntry .verbSet) contents.verbSets book.verbSets next.verbSets

/-- The contents of two pieces of a document, one behind the other. -/
def append (contents further : Contents) : Contents where
  forms := contents.forms ++ further.forms
  paradigms := contents.paradigms ++ further.paradigms
  fallbacks := contents.fallbacks ++ further.fallbacks
  verbs := contents.verbs ++ further.verbs
  verbSets := contents.verbSets ++ further.verbSets

end Contents

/-- Names that are distinct in the end were distinct before. -/
theorem distinct_of_growsBy
    {kind : EntryKind}
    {read : Element → Except RuleFileError (Entry kind)}
    {elements : List Element}
    {before after : List (Entry kind)}
    (grows : GrowsBy read elements before after)
    (distinct : (after.map Entry.name).Nodup) :
    (before.map Entry.name).Nodup := by
  rcases grows with ⟨entries, -, rfl⟩
  rw [List.map_append] at distinct
  exact (List.nodup_append.mp distinct).1

namespace Contents

variable
    {contents further : Contents}
    {book next : RuleBook}

theorem extend_append :
    (contents.append further).Extend book next ↔
      ∃ middle, contents.Extend book middle ∧ further.Extend middle next := by
  constructor
  · rintro ⟨forms, paradigms, fallbacks, verbs, verbSets⟩
    rcases growsBy_append.mp forms with ⟨middleForms, forms, furtherForms⟩
    rcases growsBy_append.mp paradigms with
      ⟨middleParadigms, paradigms, furtherParadigms⟩
    rcases growsBy_append.mp fallbacks with
      ⟨middleFallbacks, fallbacks, furtherFallbacks⟩
    rcases growsBy_append.mp verbs with ⟨middleVerbs, verbs, furtherVerbs⟩
    rcases growsBy_append.mp verbSets with
      ⟨middleVerbSets, verbSets, furtherVerbSets⟩
    let middle : RuleBook :=
      { forms := middleForms
        paradigms := middleParadigms
        fallbacks := middleFallbacks
        verbs := middleVerbs
        verbSets := middleVerbSets
        verbs_distinct := distinct_of_growsBy furtherVerbs next.verbs_distinct
        verbSets_distinct :=
          distinct_of_growsBy furtherVerbSets next.verbSets_distinct }
    exact ⟨middle, ⟨forms, paradigms, fallbacks, verbs, verbSets⟩,
      furtherForms, furtherParadigms, furtherFallbacks, furtherVerbs,
      furtherVerbSets⟩
  · rintro ⟨middle, first, second⟩
    constructor
    · exact growsBy_append.mpr ⟨middle.forms, first.forms, second.forms⟩
    · exact growsBy_append.mpr
        ⟨middle.paradigms, first.paradigms, second.paradigms⟩
    · exact growsBy_append.mpr
        ⟨middle.fallbacks, first.fallbacks, second.fallbacks⟩
    · exact growsBy_append.mpr ⟨middle.verbs, first.verbs, second.verbs⟩
    · exact growsBy_append.mpr
        ⟨middle.verbSets, first.verbSets, second.verbSets⟩

theorem extend_iff :
    contents.Extend book next ↔
      GrowsBy readFormName contents.forms book.forms next.forms ∧
        GrowsBy readParadigm contents.paradigms book.paradigms next.paradigms ∧
        GrowsBy readFallback contents.fallbacks book.fallbacks next.fallbacks ∧
        GrowsBy (readEntry .verb) contents.verbs book.verbs next.verbs ∧
        GrowsBy (readEntry .verbSet) contents.verbSets book.verbSets
          next.verbSets := by
  constructor
  · rintro ⟨forms, paradigms, fallbacks, verbs, verbSets⟩
    exact ⟨forms, paradigms, fallbacks, verbs, verbSets⟩
  · rintro ⟨forms, paradigms, fallbacks, verbs, verbSets⟩
    exact ⟨forms, paradigms, fallbacks, verbs, verbSets⟩

theorem extend_nothing : Extend {} book next ↔ book = next := by
  simp only [extend_iff, growsBy_nil, RuleBook.eq_iff]

/-- Elements are added one by one exactly if the book grows by their contents,
if it is so for each. -/
theorem foldlM_eq_ok_iff
    {step : RuleBook → Element → Except RuleFileError RuleBook}
    {contentsOf : Element → Contents}
    (single : ∀ book element next,
      step book element = .ok next ↔ (contentsOf element).Extend book next)
    (elements : List Element) :
    elements.foldlM step book = .ok next ↔
      (join contentsOf elements).Extend book next := by
  induction elements generalizing book with
  | nil =>
    have nothing : join contentsOf [] = {} := rfl
    rw [nothing, extend_nothing]
    exact Except.ok.injEq book next ▸ Iff.rfl
  | cons element rest ih =>
    have pieces :
        join contentsOf (element :: rest) =
          (contentsOf element).append (join contentsOf rest) := rfl
    rw [List.foldlM_cons, bind_eq_ok_iff, pieces, extend_append]
    simp only [single, ih]

end Contents

/-! ## One element after the other -/

section

variable {book next : RuleBook}

theorem addDeclarations_eq_ok_iff (element : Element) :
    book.addDeclarations element = .ok next ↔
      (Contents.ofDeclarations element).Extend book next := by
  rw [RuleBook.addDeclarations, Contents.ofDeclarations, Contents.extend_iff]
  by_cases isForms : element.name = "forms"
  · simp only [isForms, ifNamed, String.reduceEq, if_true, if_false,
      bind_eq_ok_iff, growsBy_nil, Except.ok.injEq, RuleBook.eq_iff]
    grind [GrowsBy, RuleBook.addForms]
  by_cases isParadigms : element.name = "paradigms"
  · simp only [isParadigms, ifNamed, String.reduceEq, if_true, if_false,
      bind_eq_ok_iff, growsBy_nil, Except.ok.injEq, RuleBook.eq_iff]
    grind [GrowsBy, RuleBook.addParadigms]
  by_cases isFallbacks : element.name = "fallbacks"
  · simp only [isFallbacks, ifNamed, String.reduceEq, if_true, if_false,
      bind_eq_ok_iff, growsBy_nil, Except.ok.injEq, RuleBook.eq_iff]
    grind [GrowsBy, RuleBook.addFallbacks]
  -- An element of another name declares nothing.
  simp only [isForms, isParadigms, isFallbacks, ifNamed, if_false, growsBy_nil,
    Except.ok.injEq, RuleBook.eq_iff]

/-- Declarations have no entries among them. -/
theorem Contents.verbs_join_ofDeclarations (elements : List Element) :
    (join ofDeclarations elements).verbs = [] := by
  show (elements.flatMap fun _ => []) = []
  exact List.flatMap_eq_nil_iff.mpr fun _ _ => rfl

theorem Contents.verbSets_join_ofDeclarations (elements : List Element) :
    (join ofDeclarations elements).verbSets = [] := by
  show (elements.flatMap fun _ => []) = []
  exact List.flatMap_eq_nil_iff.mpr fun _ _ => rfl

theorem addElement_eq_ok_iff (element : Element) :
    book.addElement element = .ok next ↔
      (Contents.ofElement element).Extend book next := by
  rw [RuleBook.addElement, Contents.ofElement]
  by_cases isMeta : element.name = "meta"
  · simp only [isMeta]
    rw [Contents.foldlM_eq_ok_iff fun _ list _ =>
      addDeclarations_eq_ok_iff list]
    simp only [Contents.extend_iff, ifNamed, isMeta, String.reduceEq, if_true,
      if_false, Contents.verbs_join_ofDeclarations,
      Contents.verbSets_join_ofDeclarations]
  by_cases isVerbSet : element.name = "verbset"
  · simp only [isVerbSet, bind_eq_ok_iff, addEntry_eq_ok_iff,
      Contents.extend_iff, ifNamed, Entry.only, String.reduceEq, if_true,
      if_false, growsBy_nil, growsBy_singleton]
    grind
  by_cases isVerb : element.name = "verb"
  · simp only [isVerb, bind_eq_ok_iff, addEntry_eq_ok_iff, Contents.extend_iff,
      ifNamed, Entry.only, String.reduceEq, if_true, if_false, growsBy_nil,
      growsBy_singleton]
    grind
  -- An element of another name is skipped.
  simp only [isMeta, isVerbSet, isVerb, ifNamed, if_false, Contents.extend_iff,
    growsBy_nil, Except.ok.injEq, RuleBook.eq_iff]

end

/-! ## Documents -/

/-- The declarations of one name, in all lists of another name that a
document has. -/
def declarations (root : Element) (listName name : String) : List Element :=
  (root.elementsNamed "meta").flatMap fun lists =>
    (lists.elementsNamed listName).flatMap fun list => list.elementsNamed name

theorem flatMap_ifNamed
    (name : String)
    (beneath : Element → List Element)
    (elements : List Element) :
    elements.flatMap (ifNamed name beneath) =
      (elements.filter fun element =>
        element.name == name).flatMap beneath := by
  induction elements with
  | nil => rfl
  | cons element rest ih =>
    by_cases named : element.name = name
    · rw [List.filter_cons_of_pos (by simpa using named), List.flatMap_cons,
        List.flatMap_cons, ih, ifNamed, if_pos named]
    · rw [List.filter_cons_of_neg (by simpa using named), List.flatMap_cons, ih,
        ifNamed, if_neg named, List.nil_append]

theorem flatMap_ifNamed_meta (root : Element) (listName name : String) :
    root.elements.flatMap
        (ifNamed "meta" fun lists =>
          lists.elements.flatMap (ifNamed listName fun list =>
            list.elementsNamed name)) =
      declarations root listName name := by
  simp only [flatMap_ifNamed]
  rfl

theorem flatMap_ifNamed_self (root : Element) (name : String) :
    root.elements.flatMap (ifNamed name fun entry => [entry]) =
      root.elementsNamed name := by
  rw [flatMap_ifNamed, List.flatMap_singleton']
  rfl

/-- The contents of a document, told by names. -/
theorem Contents.ofDocument_eq (root : Element) :
    ofDocument root =
      { forms := declarations root "forms" "form"
        paradigms := declarations root "paradigms" "paradigm"
        fallbacks := declarations root "fallbacks" "fallback"
        verbs := root.elementsNamed "verb"
        verbSets := root.elementsNamed "verbset" } := by
  rw [← flatMap_ifNamed_self root "verb", ← flatMap_ifNamed_self root "verbset"]
  simp only [← flatMap_ifNamed_meta]
  rfl

/-- A document is read as a book exactly if its root is `verbs` and each list of
the book is what the elements of one kind are read as. -/
theorem ofElement_eq_ok_iff {root : Element} {book : RuleBook} :
    RuleBook.ofElement root = .ok book ↔
      root.name = "verbs" ∧
        (declarations root "forms" "form").mapM readFormName = .ok book.forms ∧
        (declarations root "paradigms" "paradigm").mapM readParadigm =
          .ok book.paradigms ∧
        (declarations root "fallbacks" "fallback").mapM readFallback =
          .ok book.fallbacks ∧
        (root.elementsNamed "verb").mapM (readEntry .verb) = .ok book.verbs ∧
        (root.elementsNamed "verbset").mapM (readEntry .verbSet) =
          .ok book.verbSets := by
  rw [RuleBook.ofElement]
  split
  · rename_i named
    rw [Contents.foldlM_eq_ok_iff fun _ element _ =>
      addElement_eq_ok_iff element]
    show (Contents.ofDocument root).Extend .empty book ↔ _
    rw [Contents.ofDocument_eq, Contents.extend_iff, and_iff_right named]
    simp only [RuleBook.empty, growsBy_empty]
  · rename_i named
    simp [named]

/-- The entries of a book are those that its document has, in document order. -/
theorem entries_of_ofElement
    {root : Element}
    {book : RuleBook}
    (isRead : RuleBook.ofElement root = .ok book)
    (kind : EntryKind) :
    List.Forall₂ (fun element entry => readEntry kind element = .ok entry)
      (root.elementsNamed kind.elementName) (book.entries kind) := by
  rcases ofElement_eq_ok_iff.mp isRead with ⟨-, -, -, -, verbs, verbSets⟩
  cases kind with
  | verb => exact mapM_eq_ok_iff.mp verbs
  | verbSet => exact mapM_eq_ok_iff.mp verbSets

/-- So a document is read exactly if its root is `verbs`, each of these elements
is read, and no verb and no verb-set is repeated. -/
theorem exists_ofElement_iff {root : Element} :
    (∃ book, RuleBook.ofElement root = .ok book) ↔
      root.name = "verbs" ∧
        (∃ forms,
          (declarations root "forms" "form").mapM readFormName = .ok forms) ∧
        (∃ paradigms,
          (declarations root "paradigms" "paradigm").mapM readParadigm =
            .ok paradigms) ∧
        (∃ fallbacks,
          (declarations root "fallbacks" "fallback").mapM readFallback =
            .ok fallbacks) ∧
        (∃ verbs,
          (root.elementsNamed "verb").mapM (readEntry .verb) = .ok verbs ∧
          (verbs.map Entry.name).Nodup) ∧
        ∃ verbSets, (root.elementsNamed "verbset").mapM (readEntry .verbSet) =
          .ok verbSets ∧
          (verbSets.map Entry.name).Nodup := by
  constructor
  · rintro ⟨book, isRead⟩
    rcases ofElement_eq_ok_iff.mp isRead with
      ⟨named, forms, paradigms, fallbacks, verbs, verbSets⟩
    exact ⟨named, ⟨_, forms⟩, ⟨_, paradigms⟩, ⟨_, fallbacks⟩,
      ⟨_, verbs, book.verbs_distinct⟩, ⟨_, verbSets, book.verbSets_distinct⟩⟩
  · rintro ⟨named, ⟨forms, formsRead⟩, ⟨paradigms, paradigmsRead⟩,
      ⟨fallbacks, fallbacksRead⟩, ⟨verbs, verbsRead, verbsDistinct⟩, ⟨verbSets,
        verbSetsRead, verbSetsDistinct⟩⟩
    refine ⟨⟨forms, paradigms, fallbacks, verbs, verbSets, verbsDistinct,
        verbSetsDistinct⟩, ?_⟩
    exact ofElement_eq_ok_iff.mpr
      ⟨named, formsRead, paradigmsRead, fallbacksRead, verbsRead, verbSetsRead⟩

end Inflection.Rules
