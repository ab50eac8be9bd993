import Inflection.Rules.Book

/-!
# Entries by name

The verbs of a book have distinct names, and so have its verb-sets.  So an entry
is found by its own name and by no other.
-/

namespace Inflection

open Inflection.Rules

/-- Among entries of distinct names, each is found by its own. -/
theorem find?_name_of_mem
    {kind : EntryKind}
    {entries : List (Entry kind)}
    (distinct : (entries.map Entry.name).Nodup)
    {entry : Entry kind}
    (member : entry ∈ entries) :
    entries.find? (fun other => other.name = entry.name) = some entry := by
  induction entries with
  | nil => cases member
  | cons first rest ih =>
    rw [List.map_cons, List.nodup_cons] at distinct
    rcases List.mem_cons.mp member with equal | later
    · subst equal
      simp
    · have differs : ¬ first.name = entry.name := by
        intro same
        exact distinct.1 (same ▸ List.mem_map_of_mem later)
      simp [differs, ih distinct.2 later]

theorem verb?_of_mem
    {book : RuleBook}
    {word : String}
    {entry : Entry .verb}
    (member : entry ∈ book.verbs)
    (named : entry.name = word) :
    book.verb? word = some entry :=
  named ▸ find?_name_of_mem book.verbs_distinct member

theorem name_of_verb?
    {book : RuleBook}
    {word : String}
    {entry : Entry .verb}
    (found : book.verb? word = some entry) :
    entry.name = word := by
  have named := List.find?_some found
  exact of_decide_eq_true named

theorem name_of_verbSet?
    {book : RuleBook}
    {id : String}
    {entry : Entry .verbSet}
    (declared : book.verbSet? id = some entry) :
    entry.name = id := by
  have named := List.find?_some declared
  exact of_decide_eq_true named

theorem mem_of_verbSet?
    {book : RuleBook}
    {id : String}
    {entry : Entry .verbSet}
    (declared : book.verbSet? id = some entry) :
    entry ∈ book.verbSets :=
  List.mem_of_find?_eq_some declared

theorem verbSet?_name_of_mem
    {book : RuleBook}
    {entry : Entry .verbSet}
    (member : entry ∈ book.verbSets) :
    book.verbSet? entry.name = some entry :=
  find?_name_of_mem book.verbSets_distinct member

theorem verbSet?_eq_none_iff
    {book : RuleBook}
    {id : String} :
    book.verbSet? id = none ↔ ∀ entry ∈ book.verbSets, entry.name ≠ id := by
  rw [RuleBook.verbSet?, List.find?_eq_none]
  simp only [decide_eq_true_eq, ne_eq]

theorem verbSet_eq_ok_iff
    {book : RuleBook}
    {id : String}
    {entry : Entry .verbSet} :
    book.verbSet id = .ok entry ↔ book.verbSet? id = some entry := by
  unfold RuleBook.verbSet
  cases book.verbSet? id with
  | none => simp
  | some found => simp

theorem verbSet_eq_error_iff
    {book : RuleBook}
    {id : String}
    {error : BrokenRules} :
    book.verbSet id = .error error ↔
      book.verbSet? id = none ∧ error = .undeclaredVerbSet id := by
  unfold RuleBook.verbSet
  cases book.verbSet? id with
  | none => simp [eq_comm]
  | some found => simp

end Inflection
