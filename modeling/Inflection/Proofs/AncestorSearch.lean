import Inflection.Proofs.Ways

/-!
# The search for ancestors, turn by turn

The search keeps the names that it has passed, the verb-sets that it has
found and the reference that comes next.  One turn follows that reference, or
ends the search.

What every turn keeps is that the verb-sets found are the way from the entry to
the next reference and that no name on it was passed twice.  So the search
cannot go on for more turns than there are verb-sets, and how it ends is read
off the way alone.
-/

namespace Inflection

open Inflection.Rules

/-- Where a search for ancestors stands. -/
structure AncestorSearch where
  passed : List String
  found : List (Entry .verbSet)
  next : Option String

/-- What one turn of a search comes to. -/
inductive AncestorTurn where
  | onward (search : AncestorSearch)
  | ended (answer : Except BrokenRules (List (Entry .verbSet)))

/-- How a search from an entry ends, by the way of the entry. -/
inductive SearchEnds (book : RuleBook) {kind : EntryKind} (entry : Entry kind) :
    Except BrokenRules (List (Entry .verbSet)) → Prop where
  /-- The way ends at an entry that refers to nothing. -/
  | ended
      {chain : List (Entry .verbSet)}
      (way : Way book entry.inherit chain none)
      (distinct : (namesPassed entry chain).Nodup)
      (bounded : chain.length ≤ book.verbSets.length) :
      SearchEnds book entry (.ok chain)
  /-- The way comes to a reference to no verb-set. -/
  | undeclared
      {chain : List (Entry .verbSet)}
      {id : String}
      (way : Way book entry.inherit chain (some id))
      (distinct : (namesPassed entry chain).Nodup)
      (absent : book.verbSet id = .error (.undeclaredVerbSet id)) :
      SearchEnds book entry (.error (.undeclaredVerbSet id))
  /-- The way comes to a verb-set that it has passed, and so goes on
  in a circle. -/
  | circular
      {chain circle : List (Entry .verbSet)}
      {again : Entry .verbSet}
      {id : String}
      (way : Way book entry.inherit chain (some id))
      (distinct : (namesPassed entry chain).Nodup)
      (passed : id ∈ namesPassed entry chain)
      (returns : Way book (some id) (again :: circle) (some id)) :
      SearchEnds book entry (.error (.circularInheritance id))

namespace AncestorSearch

/-- The search at an entry. -/
def start {kind : EntryKind} (entry : Entry kind) : AncestorSearch :=
  ⟨passedAt entry, [], entry.inherit⟩

/-- One turn of a search. -/
def turn (book : RuleBook) (search : AncestorSearch) : AncestorTurn :=
  match search.next with
  | none => .ended (.ok search.found)
  | some id =>
    match book.verbSet id with
    | .error error => .ended (.error error)
    | .ok parent =>
      if parent.name ∈ search.passed then
        .ended (.error (.circularInheritance id))
      else
        .onward ⟨parent.name :: search.passed, search.found ++ [parent],
          parent.inherit⟩

/-- A search after a number of turns, or its answer if it has ended by then. -/
def after (book : RuleBook) : Nat → AncestorSearch → AncestorTurn
  | 0, search => .onward search
  | turns + 1, search =>
    match search.turn book with
    | .ended answer => .ended answer
    | .onward search => search.after book turns

/-- What every turn of a search from an entry keeps. -/
structure Follows (book : RuleBook) {kind : EntryKind} (entry : Entry kind)
    (search : AncestorSearch) : Prop where
  way : Way book entry.inherit search.found search.next
  passed : ∀ name, name ∈ search.passed ↔ name ∈ namesPassed entry search.found
  distinct : (namesPassed entry search.found).Nodup

section

variable
    {book : RuleBook}
    {kind : EntryKind}
    {entry : Entry kind}
    {search : AncestorSearch}

theorem start_follows (book : RuleBook) (entry : Entry kind) :
    Follows book entry (start entry) where
  way := .here entry.inherit
  passed := by simp [start, namesPassed]
  distinct := by cases kind <;> simp [start, namesPassed, passedAt]

/-- A turn that goes on finds one more verb-set on the way. -/
theorem Follows.turn_onward
    (follows : Follows book entry search)
    {next : AncestorSearch}
    (onward : search.turn book = .onward next) :
    Follows book entry next ∧ next.found.length = search.found.length + 1 := by
  unfold turn at onward
  split at onward
  · cases onward
  · rename_i id isNext
    split at onward
    · cases onward
    · rename_i parent declared
      split at onward
      · cases onward
      · rename_i isNew
        cases onward
        have names :
            namesPassed entry (search.found ++ [parent]) =
              namesPassed entry search.found ++ [parent.name] := by
          simp [namesPassed]
        refine ⟨⟨?_, ?_, ?_⟩, by simp⟩
        · have before := follows.way
          rw [isNext] at before
          exact before.append
            (.onward (verbSet_eq_ok_iff.mp declared) (.here _))
        · intro name
          rw [names, List.mem_append, ← follows.passed, List.mem_singleton,
            List.mem_cons, or_comm]
        · have fresh : parent.name ∉ namesPassed entry search.found := by
            rwa [← follows.passed]
          rw [names]
          exact List.nodup_append_comm.mpr
            (List.nodup_cons.mpr ⟨fresh, follows.distinct⟩)

/-- From a verb-set that the way has passed, the way leads back to it. -/
theorem Follows.returns
    (follows : Follows book entry search)
    (declared : Declares book entry)
    {id : String}
    (isNext : search.next = some id)
    (again : id ∈ namesPassed entry search.found) :
    ∃ set circle, Way book (some id) (set :: circle) (some id) := by
  have way := follows.way
  rw [isNext] at way
  rcases List.mem_append.mp again with atStart | onWay
  · cases kind with
    | verb => cases atStart
    | verbSet =>
      cases List.mem_singleton.mp atStart
      exact ⟨entry, search.found, .onward (verbSet?_name_of_mem declared) way⟩
  · rcases List.mem_map.mp onWay with ⟨set, isPassed, rfl⟩
    have known := verbSet?_name_of_mem (way.mem_verbSets isPassed)
    rcases List.append_of_mem isPassed with ⟨before, circle, split⟩
    rw [split] at way
    exact ⟨set, circle, .onward known way.rest_of_append⟩

/-- A turn that ends the search ends it as the way does. -/
theorem Follows.turn_ended
    (follows : Follows book entry search)
    (declared : Declares book entry)
    {answer : Except BrokenRules (List (Entry .verbSet))}
    (ended : search.turn book = .ended answer) :
    SearchEnds book entry answer := by
  have way := follows.way
  unfold turn at ended
  split at ended
  · rename_i isNext
    cases ended
    rw [isNext] at way
    exact .ended way follows.distinct
      (way.length_le (List.Nodup.of_append_right follows.distinct))
  · rename_i id isNext
    rw [isNext] at way
    split at ended
    · rename_i error failed
      cases ended
      rcases verbSet_eq_error_iff.mp failed with ⟨absent, rfl⟩
      exact .undeclared way follows.distinct failed
    · rename_i parent isParent
      split at ended
      · rename_i again
        cases ended
        have sameName := name_of_verbSet? (verbSet_eq_ok_iff.mp isParent)
        have passed := (follows.passed id).mp (sameName ▸ again)
        rcases follows.returns declared isNext passed with
          ⟨set, circle, returns⟩
        exact .circular way follows.distinct passed returns
      · cases ended

/-- A search that has not ended has found a verb-set in each of its turns. -/
theorem Follows.after_onward
    (follows : Follows book entry search)
    {turns : Nat}
    {later : AncestorSearch}
    (onward : search.after book turns = .onward later) :
    Follows book entry later ∧
      later.found.length = search.found.length + turns := by
  induction turns generalizing search with
  | zero =>
    cases onward
    exact ⟨follows, rfl⟩
  | succ turns ih =>
    unfold after at onward
    split at onward
    · cases onward
    · rename_i next turned
      have one := follows.turn_onward turned
      have rest := ih one.1 onward
      refine ⟨rest.1, ?_⟩
      rw [rest.2, one.2]
      omega

/-- A search that has ended has ended as the way does. -/
theorem Follows.after_ended
    (follows : Follows book entry search)
    (declared : Declares book entry)
    {turns : Nat}
    {answer : Except BrokenRules (List (Entry .verbSet))}
    (ended : search.after book turns = .ended answer) :
    SearchEnds book entry answer := by
  induction turns generalizing search with
  | zero => cases ended
  | succ turns ih =>
    unfold after at ended
    split at ended
    · rename_i isAnswer turned
      cases ended
      exact follows.turn_ended declared turned
    · rename_i next turned
      exact ih (follows.turn_onward turned).1 ended

/-- The search ends after at most one turn more than there are verb-sets. -/
theorem start_ends (book : RuleBook) (entry : Entry kind) :
    ∃ answer, (start entry).after book (book.verbSets.length + 1) =
      .ended answer := by
  cases reached : (start entry).after book (book.verbSets.length + 1) with
  | ended answer => exact ⟨answer, rfl⟩
  | onward later =>
    have follows := (start_follows book entry).after_onward reached
    have short :=
      follows.1.way.length_le (List.Nodup.of_append_right follows.1.distinct)
    rw [follows.2] at short
    simp only [start, List.length_nil] at short
    omega

end

end AncestorSearch

/-! ## The answer -/

section

variable
    {book : RuleBook}
    {passed : List String}
    {id : String}
    {parent : Entry .verbSet}

theorem ancestorsFrom_undeclared
    (absent : book.verbSet? id = none) :
    ancestorsFrom book passed (some id) = .error (.undeclaredVerbSet id) := by
  rw [ancestorsFrom]
  split
  · rfl
  · rename_i parent declared
    rw [absent] at declared
    cases declared

theorem ancestorsFrom_circular
    (declared : book.verbSet? id = some parent)
    (again : parent.name ∈ passed) :
    ancestorsFrom book passed (some id) = .error (.circularInheritance id) := by
  rw [ancestorsFrom]
  split
  · rename_i absent
    rw [declared] at absent
    cases absent
  · rename_i other isOther
    cases declared.symm.trans isOther
    exact dif_neg (not_not_intro again)

theorem ancestorsFrom_onward
    (declared : book.verbSet? id = some parent)
    (isNew : parent.name ∉ passed) :
    ancestorsFrom book passed (some id) =
      (ancestorsFrom book (parent.name :: passed) parent.inherit).map
        (parent :: ·) := by
  rw [ancestorsFrom]
  split
  · rename_i absent
    rw [declared] at absent
    cases absent
  · rename_i other isOther
    cases declared.symm.trans isOther
    rw [dif_pos isNew]
    cases ancestorsFrom book (parent.name :: passed) parent.inherit with
    | error error => rfl
    | ok ancestors => rfl

/-- Along a way without repetition the ancestors are the verb-sets of the way,
and then whatever comes behind it. -/
theorem ancestorsFrom_along
    {next last : Option String}
    {chain : List (Entry .verbSet)}
    (way : Way book next chain last)
    (distinct : (passed ++ chain.map Entry.name).Nodup) :
    ancestorsFrom book passed next =
      (ancestorsFrom book ((chain.map Entry.name).reverse ++ passed) last).map
        (chain ++ ·) := by
  induction way generalizing passed with
  | here next =>
    show ancestorsFrom book passed next =
        (ancestorsFrom book passed next).map ([] ++ ·)
    cases ancestorsFrom book passed next with
    | error error => rfl
    | ok ancestors => rfl
  | @onward id parent further last declared rest ih =>
    rw [List.map_cons, List.nodup_middle, ← List.cons_append] at distinct
    have isNew : parent.name ∉ passed := by
      intro again
      exact (List.nodup_cons.mp distinct).1 (List.mem_append_left _ again)
    rw [ancestorsFrom_onward declared isNew, ih distinct]
    have names :
        (further.map Entry.name).reverse ++ parent.name :: passed =
          ((parent :: further).map Entry.name).reverse ++ passed := by
      simp
    rw [names]
    cases ancestorsFrom book
        (((parent :: further).map Entry.name).reverse ++ passed) last with
    | error error => rfl
    | ok ancestors => rfl

end

/-- The way of an entry decides what its ancestors are. -/
theorem ancestors_of_searchEnds
    {book : RuleBook}
    {kind : EntryKind}
    {entry : Entry kind}
    {answer : Except BrokenRules (List (Entry .verbSet))}
    (ends : SearchEnds book entry answer) :
    ancestors book entry = answer := by
  unfold ancestors
  cases ends with
  | ended way distinct bounded =>
    rw [ancestorsFrom_along way distinct, ancestorsFrom]
    simp [Except.map]
  | undeclared way distinct absent =>
    rw [ancestorsFrom_along way distinct,
      ancestorsFrom_undeclared (verbSet_eq_error_iff.mp absent).1]
    rfl
  | @circular chain circle again id way distinct passed returns =>
    cases returns with
    | onward declared rest =>
      have isPassed :
          again.name ∈ (chain.map Entry.name).reverse ++ passedAt entry := by
        rw [name_of_verbSet? declared, List.mem_append, List.mem_reverse,
          or_comm]
        exact List.mem_append.mp passed
      rw [ancestorsFrom_along way distinct,
        ancestorsFrom_circular declared isPassed]
      rfl

/-- The search for the ancestors of an entry of a book ends, after at most one
turn more than the book has verb-sets.  It ends in exactly one of three ways,
as the way of the entry does: with the ancestors, at an undeclared verb-set, or
in a circle. -/
theorem ancestors_decided_by_way
    (book : RuleBook)
    {kind : EntryKind}
    (entry : Entry kind)
    (declared : Declares book entry) :
    (∃ turns ≤ book.verbSets.length + 1,
      (AncestorSearch.start entry).after book turns =
        .ended (ancestors book entry)) ∧
    ∀ answer, ancestors book entry = answer ↔ SearchEnds book entry answer := by
  rcases AncestorSearch.start_ends book entry with ⟨reached, ended⟩
  have asTheWay : SearchEnds book entry reached :=
    (AncestorSearch.start_follows book entry).after_ended declared ended
  have same := ancestors_of_searchEnds asTheWay
  constructor
  · exact ⟨book.verbSets.length + 1, Nat.le_refl _, same ▸ ended⟩
  · intro answer
    constructor
    · intro isAnswer
      rw [← isAnswer, same]
      exact asTheWay
    · exact ancestors_of_searchEnds

/-- A verb whose way leads into a circle that it does not start from. -/
def verbBeforeCircle : Entry .verb :=
  ⟨"venir", some "tenir", .empty⟩

/-- The book with this verb and the verb-sets on its way. -/
def bookWithCircle : RuleBook where
  verbs := [verbBeforeCircle]
  verbSets :=
    [⟨"tenir", some "ir", .empty⟩, ⟨"ir", some "re", .empty⟩,
      ⟨"re", some "ir", .empty⟩]
  verbs_distinct := by simp
  verbSets_distinct := by simp

/-- The search from this verb ends where the way enters the circle again. -/
theorem searchEnds_verbBeforeCircle :
    Declares bookWithCircle verbBeforeCircle ∧
    (∃ turns ≤ 4,
      (AncestorSearch.start verbBeforeCircle).after bookWithCircle turns =
        .ended (ancestors bookWithCircle verbBeforeCircle)) ∧
    SearchEnds bookWithCircle verbBeforeCircle
      (.error (.circularInheritance "ir")) := by
  have declared : Declares bookWithCircle verbBeforeCircle :=
    List.mem_singleton.mpr rfl
  have decided :=
    ancestors_decided_by_way bookWithCircle verbBeforeCircle declared
  have answer :
      ancestors bookWithCircle verbBeforeCircle =
        .error (.circularInheritance "ir") := by
    cbv
  exact ⟨declared, decided.1, (decided.2 _).mp answer⟩

end Inflection
