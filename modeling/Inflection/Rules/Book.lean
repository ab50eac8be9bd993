import Inflection.Rules.Entry
import Inflection.Rules.Paradigm

/-!
# Rule books

A rule book has all rules for the verbs of one language.  It declares the forms
and paradigms of the language, in the order in which they are listed; verbs and
verb-sets, each with a name of its own among its kind; and fallbacks, which pick
a verb-set for the words that have no entry.
-/

namespace Inflection.Rules

/-- A verb-set for the words that a pattern matches. -/
structure Fallback where
  pattern : Pattern
  target : String

/-- All rules for the verbs of one language. -/
structure RuleBook where
  forms : List String := []
  paradigms : List Paradigm := []
  fallbacks : List Fallback := []
  verbs : List (Entry .verb) := []
  verbSets : List (Entry .verbSet) := []
  verbs_distinct : (verbs.map Entry.name).Nodup := by simp
  verbSets_distinct : (verbSets.map Entry.name).Nodup := by simp

/-- The defect of a second entry with a name. -/
def EntryKind.repeated : EntryKind → String → RuleFileError
  | .verb => .repeatedVerb
  | .verbSet => .repeatedVerbSet

namespace RuleBook

/-- The book without any rules. -/
def empty : RuleBook :=
  {}

/-- The entry of a word. -/
def verb? (book : RuleBook) (word : String) : Option (Entry .verb) :=
  book.verbs.find? fun entry => entry.name = word

/-- The verb-set of this name. -/
def verbSet? (book : RuleBook) (id : String) : Option (Entry .verbSet) :=
  book.verbSets.find? fun entry => entry.name = id

/-- The verb-set that some rule refers to. -/
def verbSet
    (book : RuleBook)
    (id : String) :
    Except BrokenRules (Entry .verbSet) :=
  match book.verbSet? id with
  | none => .error (.undeclaredVerbSet id)
  | some entry => .ok entry

/-- The first fallback whose pattern matches a word. -/
def fallback? (book : RuleBook) (word : String) : Option Fallback :=
  book.fallbacks.find? fun fallback => fallback.pattern.isMatch word.toList

/-- The verb-set that the first matching fallback picks. -/
def fallbackSet (book : RuleBook) (word : String) :
    Except BrokenRules (Option (Entry .verbSet)) :=
  match book.fallback? word with
  | none => .ok none
  | some fallback => (book.verbSet fallback.target).map some

/-- Names stay distinct when a new one is put behind them. -/
theorem distinct_concat
    {kind : EntryKind}
    {entries : List (Entry kind)}
    {entry : Entry kind}
    (distinct : (entries.map Entry.name).Nodup)
    (new : entry.name ∉ entries.map Entry.name) :
    ((entries ++ [entry]).map Entry.name).Nodup := by
  rw [List.map_append, List.nodup_append]
  refine ⟨distinct, by simp, ?_⟩
  intro old isOld added isAdded
  rw [List.map_singleton, List.mem_singleton] at isAdded
  rintro rfl
  exact new (isAdded ▸ isOld)

/-- The entries of one kind. -/
def entries (book : RuleBook) : (kind : EntryKind) → List (Entry kind)
  | .verb => book.verbs
  | .verbSet => book.verbSets

theorem entries_distinct (book : RuleBook) (kind : EntryKind) :
    ((book.entries kind).map Entry.name).Nodup := by
  cases kind with
  | verb => exact book.verbs_distinct
  | verbSet => exact book.verbSets_distinct

/-- The same book with other entries of one kind. -/
def withEntries
    (book : RuleBook)
    (kind : EntryKind)
    (entries : List (Entry kind))
    (distinct : (entries.map Entry.name).Nodup) :
    RuleBook :=
  match kind with
  | .verb => { book with verbs := entries, verbs_distinct := distinct }
  | .verbSet => { book with verbSets := entries, verbSets_distinct := distinct }

/-- Adds an entry, unless there is one of its kind and name. -/
def addEntry (book : RuleBook) {kind : EntryKind} (entry : Entry kind) :
    Except RuleFileError RuleBook :=
  if new : entry.name ∉ (book.entries kind).map Entry.name then
    .ok <| book.withEntries kind (book.entries kind ++ [entry])
      (distinct_concat (book.entries_distinct kind) new)
  else
    .error (kind.repeated entry.name)

section

variable
    {book : RuleBook}
    {kind : EntryKind}
    {entry : Entry kind}

theorem addEntry_of_new
    (new : entry.name ∉ (book.entries kind).map Entry.name) :
    book.addEntry entry =
      .ok (book.withEntries kind (book.entries kind ++ [entry])
        (distinct_concat (book.entries_distinct kind) new)) :=
  dif_pos new

theorem addEntry_of_taken
    (taken : entry.name ∈ (book.entries kind).map Entry.name) :
    book.addEntry entry = .error (kind.repeated entry.name) :=
  dif_neg (not_not_intro taken)

end

/-- Adds a verb, unless there is one of its name. -/
def addVerb (book : RuleBook) (entry : Entry .verb) :
    Except RuleFileError RuleBook :=
  book.addEntry entry

/-- Declares further forms, behind those already declared. -/
def addForms (book : RuleBook) (forms : List String) : RuleBook :=
  { book with forms := book.forms ++ forms }

/-- Declares further paradigms, behind those already declared. -/
def addParadigms (book : RuleBook) (paradigms : List Paradigm) : RuleBook :=
  { book with paradigms := book.paradigms ++ paradigms }

/-- Adds further fallbacks, behind those already there. -/
def addFallbacks (book : RuleBook) (fallbacks : List Fallback) : RuleBook :=
  { book with fallbacks := book.fallbacks ++ fallbacks }

end RuleBook

end Inflection.Rules
