import Inflection.Rules.Book

/-!
# Ancestries

An entry inherits from a verb-set, which may inherit from another, and so on.
The verb-sets on the way are the ancestors of the entry, the nearest first.
The way is broken if it leads to a verb-set that is not declared, or comes back
to a verb-set that it has passed; a verb-set that it starts from counts as
passed, a verb does not.

An ancestry is an entry with its ancestors.
-/

namespace Inflection

open Inflection.Rules

/-- The verb-sets of a book that a way has not passed yet. -/
def notPassed
    (book : RuleBook)
    (passed : List String) :
    List (Entry .verbSet) :=
  book.verbSets.filter fun entry => entry.name ∉ passed

/-- Passing a verb-set leaves fewer to pass. -/
theorem length_notPassed_lt
    {book : RuleBook}
    {passed : List String}
    {entry : Entry .verbSet}
    (declared : entry ∈ book.verbSets)
    (isNew : entry.name ∉ passed) :
    (notPassed book (entry.name :: passed)).length <
      (notPassed book passed).length := by
  have shrinks :
      notPassed book (entry.name :: passed) =
        (notPassed book passed).filter fun other =>
          other.name ≠ entry.name := by
    unfold notPassed
    rw [List.filter_filter]
    apply List.filter_congr
    intro other _
    by_cases same : other.name = entry.name <;> simp [same]
  rw [shrinks, List.length_filter_lt_length_iff_exists]
  refine ⟨entry, ?_, by simp⟩
  simp [notPassed, declared, isNew]

/-- The ancestors on a way that leads to a verb-set next, if it leads on.  Each
step passes one of the verb-sets that were left. -/
def ancestorsFrom
    (book : RuleBook)
    (passed : List String) :
    Option String → Except BrokenRules (List (Entry .verbSet))
  | none => .ok []
  | some id =>
    match _ : book.verbSet? id with
    | none => .error (.undeclaredVerbSet id)
    | some parent =>
      if _ : parent.name ∉ passed then
        match ancestorsFrom book (parent.name :: passed) parent.inherit with
        | .error error => .error error
        | .ok ancestors => .ok (parent :: ancestors)
      else
        .error (.circularInheritance id)
  termination_by (notPassed book passed).length
  decreasing_by exact length_notPassed_lt (List.mem_of_find?_eq_some ‹_›) ‹_›

/-- What a way has passed where it starts from an entry. -/
def passedAt : {kind : EntryKind} → Entry kind → List String
  | .verb, _ => []
  | .verbSet, entry => [entry.name]

/-- The ancestors of an entry, the nearest first. -/
def ancestors
    {kind : EntryKind}
    (book : RuleBook)
    (entry : Entry kind) :
    Except BrokenRules (List (Entry .verbSet)) :=
  ancestorsFrom book (passedAt entry) entry.inherit

/-- An entry with its ancestors. -/
structure Ancestry where
  {kind : EntryKind}
  root : Entry kind
  ancestors : List (Entry .verbSet)

namespace Ancestry

/-- The ancestry of an entry. -/
def ofEntry
    {kind : EntryKind}
    (book : RuleBook)
    (entry : Entry kind) :
    Except BrokenRules Ancestry :=
  (Inflection.ancestors book entry).map fun ancestors => ⟨entry, ancestors⟩

/-- The rules of the entry and of its ancestors, the nearest first. -/
def layers (ancestry : Ancestry) : List Forms :=
  ancestry.root.forms :: ancestry.ancestors.map Entry.forms

end Ancestry

/-- The ancestry by which a word is conjugated: that of its own entry, or of the
verb-set that a fallback picks.  There is none if no fallback matches. -/
def ancestryOf
    (book : RuleBook)
    (word : String) :
    Except BrokenRules (Option Ancestry) :=
  match book.verb? word with
  | some entry => (Ancestry.ofEntry book entry).map some
  | none => do
    match ← book.fallbackSet word with
    | some entry => (Ancestry.ofEntry book entry).map some
    | none => .ok none

end Inflection
