import Inflection.Proofs.Declarations
import Inflection.Rules.Reader
import Mathlib.Data.List.Forall2

/-!
# Reading in document order

The levels beneath an element are read one by one, and then put together in
document order.  So elements that stand behind others add their levels to those
that were there, and the reading of a document can be taken apart into the
readings of its elements.
-/

namespace Inflection.Rules

open Inflection.Markup (Element Node)

/-! ## Results -/

section

variable {Failure Item Result State : Type}

@[simp]
theorem ok_bind (result : Result) (next : Result → Except Failure State) :
    (Except.ok result >>= next) = next result :=
  rfl

@[simp]
theorem error_bind (failure : Failure) (next : Result → Except Failure State) :
    (Except.error failure >>= next) = .error failure :=
  rfl

@[simp]
theorem map_ok (change : Result → State) (result : Result) :
    (Except.ok result : Except Failure Result).map change =
      .ok (change result) :=
  rfl

@[simp]
theorem map_error (change : Result → State) (failure : Failure) :
    (Except.error failure : Except Failure Result).map change =
      .error failure :=
  rfl

theorem bind_eq_ok_iff
    {first : Except Failure Result}
    {next : Result → Except Failure State}
    {state : State} :
    (first >>= next) = .ok state ↔
      ∃ result, first = .ok result ∧ next result = .ok state := by
  cases first with
  | error failure => simp
  | ok result => simp

section

variable
    {read : Item → Except Failure Result}
    {items : List Item}

/-- Items are read as some results if each is read as its own. -/
theorem mapM_eq_ok_iff {results : List Result} :
    items.mapM read = .ok results ↔
      List.Forall₂ (fun item result =>
        read item = .ok result) items results := by
  induction items generalizing results with
  | nil =>
    rw [List.forall₂_nil_left_iff, eq_comm]
    exact Except.ok.injEq results [] ▸ Iff.rfl
  | cons item rest ih =>
    rw [List.mapM_cons, bind_eq_ok_iff, List.forall₂_cons_left_iff]
    constructor
    · rintro ⟨result, isRead, others⟩
      rcases bind_eq_ok_iff.mp others with ⟨further, areRead, all⟩
      cases all
      exact ⟨result, further, isRead, ih.mp areRead, rfl⟩
    · rintro ⟨result, further, isRead, areRead, rfl⟩
      exact ⟨result, isRead, bind_eq_ok_iff.mpr ⟨further, ih.mpr areRead, rfl⟩⟩

/-- All items are read exactly if each of them is. -/
theorem exists_mapM_eq_ok_iff :
    (∃ results, items.mapM read = .ok results) ↔
      ∀ item ∈ items, ∃ result, read item = .ok result := by
  simp only [mapM_eq_ok_iff]
  induction items with
  | nil => simp
  | cons item rest ih =>
    rw [List.forall_mem_cons, ← ih]
    constructor
    · rintro ⟨results, areRead⟩
      cases areRead with
      | cons isRead others => exact ⟨⟨_, isRead⟩, ⟨_, others⟩⟩
    · rintro ⟨⟨result, isRead⟩, further, others⟩
      exact ⟨result :: further, .cons isRead others⟩

end

/-- Changing each item and the state beforehand is changing the state
afterwards, if it is so for each step. -/
theorem foldlM_map_of_step
    {step step' : State → Item → Except Failure State}
    {changeItem : Item → Item}
    {changeState : State → State}
    {items : List Item}
    (single : ∀ state, ∀ item ∈ items,
      step' (changeState state)
        (changeItem item) = (step state item).map changeState)
    (state : State) :
    (items.map changeItem).foldlM step' (changeState state) =
      (items.foldlM step state).map changeState := by
  induction items generalizing state with
  | nil => rfl
  | cons item rest ih =>
    rw [List.map_cons, List.foldlM_cons, List.foldlM_cons,
      single state item (List.mem_cons_self ..)]
    cases step state item with
    | error failure => rfl
    | ok next =>
      exact ih (fun state item member =>
        single state item (List.mem_cons_of_mem _ member)) next

end

/-! ## Levels -/

section

variable
    {Level : Type}
    {read : Element → Except RuleFileError Level}
    {merge : Level → Level → Level}

/-- Reads a level with its `id`. -/
def readNamed
    (read : Element → Except RuleFileError Level)
    (element : Element) :
    Except RuleFileError (String × Level) := do
  let id ← requiredAttribute element "id"
  let level ← read element
  .ok (id, level)

/-- Levels are read one by one, and then put to those that are there. -/
theorem foldlM_readLevels_eq (levels : Keyed Level) (elements : List Element) :
    elements.foldlM
        (fun levels element => do
          let id ← requiredAttribute element "id"
          let level ← read element
          .ok (levels.put merge id level))
        levels =
      (elements.mapM (readNamed read)).map (levels.putAll merge) := by
  induction elements generalizing levels with
  | nil => rfl
  | cons element rest ih =>
    rw [List.foldlM_cons, List.mapM_cons, readNamed]
    cases requiredAttribute element "id" with
    | error failure => rfl
    | ok id =>
      cases read element with
      | error failure => rfl
      | ok level =>
        simp only [ok_bind, ih]
        cases rest.mapM (readNamed read) with
        | error failure => rfl
        | ok entries => rfl

theorem readLevels_eq (elements : List Element) :
    readLevels read merge elements =
      (elements.mapM (readNamed read)).map (Keyed.empty.putAll merge) :=
  foldlM_readLevels_eq .empty elements

/-- Levels that stand behind others are put to them. -/
theorem readLevels_append
    {later : List Element}
    {entries : List (String × Level)}
    (areRead : later.mapM (readNamed read) = .ok entries)
    (earlier : List Element) :
    readLevels read merge (earlier ++ later) =
      (readLevels read merge earlier).map fun levels =>
        levels.putAll merge entries := by
  rw [readLevels, List.foldlM_append]
  show (readLevels read merge earlier >>= _) = _
  cases readLevels read merge earlier with
  | error failure => rfl
  | ok levels => simp only [ok_bind, foldlM_readLevels_eq, areRead, map_ok]

end

/-! ## Entries -/

theorem requiredAttribute_eq_ok_iff
    {element : Element}
    {name value : String} :
    requiredAttribute element name = .ok value ↔
      element.attribute? name = some value := by
  unfold requiredAttribute
  cases element.attribute? name with
  | none => simp
  | some found => simp

/-- Reads the rules of forms among some elements, each under its `id`. -/
def readGroups
    (elements : List Element) :
    Except RuleFileError (List (String × FormRules)) :=
  (elements.filter fun child => child.name == "group").mapM (readNamed readForm)

theorem readGroups_append
    {earlier later : List Element}
    {first further : List (String × FormRules)}
    (earlierRead : readGroups earlier = .ok first)
    (laterRead : readGroups later = .ok further) :
    readGroups (earlier ++ later) = .ok (first ++ further) := by
  unfold readGroups at earlierRead laterRead ⊢
  rw [List.filter_append, List.mapM_append, earlierRead, laterRead]
  rfl

/-- An entry is read with the name and the reference of its element, and with
its forms put together. -/
theorem readEntry_eq_ok_iff
    {kind : EntryKind}
    {element : Element}
    {entry : Entry kind} :
    readEntry kind element = .ok entry ↔
      ∃ name entries,
        element.attribute? kind.nameAttribute = some name ∧
        readGroups element.elements = .ok entries ∧
        entry =
          ⟨name, element.attribute? "inherit",
            Keyed.empty.putAll FormRules.merge entries⟩ := by
  unfold readEntry
  rw [bind_eq_ok_iff, readLevels_eq]
  simp only [requiredAttribute_eq_ok_iff]
  show _ ↔ ∃ name entries, _ ∧
      (element.elementsNamed "group").mapM (readNamed readForm) = _ ∧ _
  cases (element.elementsNamed "group").mapM (readNamed readForm) with
  | error failure => simp
  | ok entries => simp [eq_comm]

/-- The name of the elements that are read as entries of a kind. -/
def EntryKind.elementName : EntryKind → String
  | .verb => "verb"
  | .verbSet => "verbset"

/-- Declarations leave the entries as they are. -/
theorem entries_of_addDeclarations
    {book next : RuleBook}
    {element : Element}
    (added : book.addDeclarations element = .ok next)
    (kind : EntryKind) :
    next.entries kind = book.entries kind := by
  unfold RuleBook.addDeclarations at added
  split at added
  all_goals
    try rcases bind_eq_ok_iff.mp added with ⟨declared, -, added⟩
    cases added
    cases kind <;> rfl

theorem entries_of_foldlM_addDeclarations
    {book next : RuleBook}
    {elements : List Element}
    (added : elements.foldlM RuleBook.addDeclarations book = .ok next)
    (kind : EntryKind) :
    next.entries kind = book.entries kind := by
  induction elements generalizing book with
  | nil =>
    cases added
    rfl
  | cons element rest ih =>
    rw [List.foldlM_cons] at added
    rcases bind_eq_ok_iff.mp added with ⟨middle, first, others⟩
    rw [ih others, entries_of_addDeclarations first]

/-- A book is told by its lists. -/
theorem RuleBook.eq_iff {book next : RuleBook} :
    book = next ↔
      next.forms = book.forms ∧ next.paradigms = book.paradigms ∧
        next.fallbacks = book.fallbacks ∧ next.verbs = book.verbs ∧
        next.verbSets = book.verbSets := by
  cases book
  cases next
  simp only [RuleBook.mk.injEq, eq_comm]

/-- A name that is distinct from those in front is new behind them. -/
theorem new_of_distinct_concat
    {kind : EntryKind}
    {entries : List (Entry kind)}
    {entry : Entry kind}
    (distinct : ((entries ++ [entry]).map Entry.name).Nodup) :
    entry.name ∉ entries.map Entry.name := by
  rw [List.map_append, List.nodup_append] at distinct
  intro taken
  exact distinct.2.2 entry.name taken entry.name (by simp) rfl

/-- An entry as the only one of its kind, and no entry of the other kind. -/
def Entry.only {kind : EntryKind} (entry : Entry kind) (other : EntryKind) :
    List (Entry other) :=
  match kind, other with
  | .verb, .verb => [entry]
  | .verbSet, .verbSet => [entry]
  | _, _ => []

/-- An entry can be put behind others of its kind exactly if the book can have
it there. -/
theorem addEntry_eq_ok_iff
    {book next : RuleBook}
    {kind : EntryKind}
    {entry : Entry kind} :
    book.addEntry entry = .ok next ↔
      next.forms = book.forms ∧ next.paradigms = book.paradigms ∧
        next.fallbacks = book.fallbacks ∧
        next.verbs = book.verbs ++ entry.only .verb ∧
        next.verbSets = book.verbSets ++ entry.only .verbSet := by
  by_cases taken : entry.name ∈ (book.entries kind).map Entry.name
  · rw [RuleBook.addEntry_of_taken taken]
    simp only [reduceCtorEq, false_iff]
    rintro ⟨-, -, -, moreVerbs, moreVerbSets⟩
    have more : next.entries kind = book.entries kind ++ [entry] := by
      cases kind with
      | verb => exact moreVerbs
      | verbSet => exact moreVerbSets
    exact new_of_distinct_concat (more ▸ next.entries_distinct kind) taken
  · rw [RuleBook.addEntry_of_new taken, Except.ok.injEq, RuleBook.eq_iff]
    cases kind <;> simp [RuleBook.withEntries, RuleBook.entries, Entry.only]

/-- An element adds the entry that it is read as, if it is one of the kind. -/
theorem entries_of_addElement
    {book next : RuleBook}
    {element : Element}
    (added : book.addElement element = .ok next)
    (kind : EntryKind) :
    (element.name = kind.elementName ∧
      ∃ entry, readEntry kind element = .ok entry ∧
        next.entries kind = book.entries kind ++ [entry]) ∨
    (element.name ≠ kind.elementName ∧
      next.entries kind = book.entries kind) := by
  unfold RuleBook.addElement at added
  split at added
  · rename_i isMeta
    refine .inr ⟨?_, entries_of_foldlM_addDeclarations added kind⟩
    rw [isMeta]
    cases kind <;> decide
  · rename_i isVerbSet
    rcases bind_eq_ok_iff.mp added with ⟨entry, isEntry, added⟩
    rcases addEntry_eq_ok_iff.mp added with ⟨-, -, -, sameVerbs, moreVerbSets⟩
    cases kind with
    | verb =>
      exact .inr ⟨by rw [isVerbSet]; decide,
        sameVerbs.trans (List.append_nil _)⟩
    | verbSet => exact .inl ⟨isVerbSet, entry, isEntry, moreVerbSets⟩
  · rename_i isVerb
    rcases bind_eq_ok_iff.mp added with ⟨entry, isEntry, added⟩
    rcases addEntry_eq_ok_iff.mp added with ⟨-, -, -, moreVerbs, sameVerbSets⟩
    cases kind with
    | verb => exact .inl ⟨isVerb, entry, isEntry, moreVerbs⟩
    | verbSet =>
      exact .inr ⟨by rw [isVerb]; decide,
        sameVerbSets.trans (List.append_nil _)⟩
  · rename_i notMeta notVerbSet notVerb
    cases added
    cases kind with
    | verb => exact .inr ⟨notVerb, rfl⟩
    | verbSet => exact .inr ⟨notVerbSet, rfl⟩

/-- Among elements that are read as entries of distinct names, each entry is
found by its name. -/
theorem find?_element_of_mem
    {kind : EntryKind}
    {elements : List Element}
    {entries : List (Entry kind)}
    (areRead :
      List.Forall₂ (fun element entry =>
        readEntry kind element = .ok entry) elements entries)
    (distinct : (entries.map Entry.name).Nodup)
    {entry : Entry kind}
    (member : entry ∈ entries) :
    ∃ element,
      elements.find? (fun element =>
        element.attribute? kind.nameAttribute = some entry.name) =
          some element ∧
      readEntry kind element = .ok entry := by
  induction areRead with
  | nil => cases member
  | @cons element first elements entries isFirst areOthers ih =>
    rw [List.map_cons, List.nodup_cons] at distinct
    have named : element.attribute? kind.nameAttribute = some first.name := by
      rcases readEntry_eq_ok_iff.mp isFirst with ⟨name, levels, isName, -, rfl⟩
      exact isName
    rcases List.mem_cons.mp member with equal | later
    · subst equal
      exact ⟨element, by simp [named], isFirst⟩
    · have differs : ¬ first.name = entry.name := by
        intro same
        exact distinct.1 (same ▸ List.mem_map_of_mem later)
      rcases ih distinct.2 later with ⟨found, isFound, isEntry⟩
      exact ⟨found, by simp [named, differs, isFound], isEntry⟩

end Inflection.Rules
