import Inflection.Proofs.AncestorSearch
import Inflection.Proofs.DocumentOrder
import Inflection.Proofs.Prescription
import Inflection.Proofs.Sameness
import Inflection.Proofs.StandIn

/-!
# Books that grow

A book grows by further verbs, by verb-sets under new names and by fallbacks
behind its own, while it keeps all that it has.  What is read of a book for a
word is its entry or else the first fallback that matches, and then the
verb-sets on the way from there.  None of this changes when the book grows,
unless the word gets an entry.

So a conjugation stays as it is, and so does a way that goes round in a
circle.  Only where the book had nothing to go by can more come of it: where a
verb-set was not declared, if it is now, and where no fallback matched, if an
added one does.
-/

namespace Inflection

open Inflection.Rules

/-- Tells that a book has grown to another, by some fallbacks behind its own and
by any entries under new names. -/
structure Grows (book grown : RuleBook) (added : List Fallback) : Prop where
  forms : grown.forms = book.forms
  paradigms : grown.paradigms = book.paradigms
  fallbacks : grown.fallbacks = book.fallbacks ++ added
  verbs {word : String} {entry : Entry .verb}
    (found : book.verb? word = some entry) :
    ∃ kept, grown.verb? word = some kept ∧ entry.Same kept
  verbSets {id : String} {entry : Entry .verbSet}
    (declared : book.verbSet? id = some entry) :
    ∃ kept, grown.verbSet? id = some kept ∧ entry.Same kept

/-- A book has grown to another if all its entries are among those
of the other. -/
theorem grows_of_mem
    {book grown : RuleBook}
    {added : List Fallback}
    (forms : grown.forms = book.forms)
    (paradigms : grown.paradigms = book.paradigms)
    (fallbacks : grown.fallbacks = book.fallbacks ++ added)
    (verbs : ∀ entry ∈ book.verbs, entry ∈ grown.verbs)
    (verbSets : ∀ entry ∈ book.verbSets, entry ∈ grown.verbSets) :
    Grows book grown added where
  forms := forms
  paradigms := paradigms
  fallbacks := fallbacks
  verbs := by
    intro word entry found
    have member := verbs entry (List.mem_of_find?_eq_some found)
    exact ⟨entry, verb?_of_mem member (name_of_verb? found), .refl entry⟩
  verbSets := by
    intro id entry declared
    have member := verbSets entry (mem_of_verbSet? declared)
    rw [← name_of_verbSet? declared]
    exact ⟨entry, verbSet?_name_of_mem member, .refl entry⟩

/-- Tells that an answer of a book stands when the book has grown.  What is
answered at an undeclared verb-set stands unless the grown book declares it;
then anything may come of it. -/
inductive Stands
    (grown : RuleBook)
    {Answer Answer' : Type}
    (Rel : Answer → Answer' → Prop) :
    Except BrokenRules Answer → Except BrokenRules Answer' → Prop where
  | answered
      {answer : Answer}
      {answer' : Answer'}
      (related : Rel answer answer') :
      Stands grown Rel (.ok answer) (.ok answer')
  | circular (id : String) :
      Stands grown Rel (.error (.circularInheritance id))
        (.error (.circularInheritance id))
  | undeclared
      {id : String}
      (absent : grown.verbSet? id = none) :
      Stands grown Rel (.error (.undeclaredVerbSet id))
        (.error (.undeclaredVerbSet id))
  | overtaken
      {id : String}
      {entry : Entry .verbSet}
      (declared : grown.verbSet? id = some entry)
      (result : Except BrokenRules Answer') :
      Stands grown Rel (.error (.undeclaredVerbSet id)) result

namespace Stands

section

variable
    {grown : RuleBook}
    {Answer Answer' Further Further' : Type}
    {Rel : Answer → Answer' → Prop}
    {Rel' : Further → Further' → Prop}
    {result : Except BrokenRules Answer}
    {result' : Except BrokenRules Answer'}

/-- What is made of an answer that stands stands. -/
theorem map
    (stands : Stands grown Rel result result')
    {change : Answer → Further}
    {change' : Answer' → Further'}
    (each : ∀ answer answer',
      Rel answer answer' → Rel' (change answer) (change' answer')) :
    Stands grown Rel' (result.map change) (result'.map change') := by
  cases stands with
  | answered related => exact .answered (each _ _ related)
  | circular id => exact .circular id
  | undeclared absent => exact .undeclared absent
  | overtaken declared => exact .overtaken declared _

theorem eq_of_ok
    {result result' : Except BrokenRules Answer}
    {answer : Answer}
    (stands : Stands grown Eq result result')
    (answered : result = .ok answer) :
    result' = .ok answer := by
  subst answered
  cases stands with
  | answered same => rw [same]

theorem eq_of_circular
    {id : String}
    (stands : Stands grown Rel result result')
    (circular : result = .error (.circularInheritance id)) :
    result' = .error (.circularInheritance id) := by
  subst circular
  cases stands with
  | circular => rfl

theorem eq_of_undeclared
    {id : String}
    (stands : Stands grown Rel result result')
    (undeclared : result = .error (.undeclaredVerbSet id))
    (absent : grown.verbSet? id = none) :
    result' = .error (.undeclaredVerbSet id) := by
  subst undeclared
  cases stands with
  | undeclared => rfl
  | overtaken declared =>
    rw [absent] at declared
    cases declared

end

end Stands

/-- A reference to an undeclared verb-set comes to the same unless the grown
book declares it. -/
theorem stands_of_undeclared
    {grown : RuleBook}
    {Answer Answer' : Type}
    {Rel : Answer → Answer' → Prop}
    {id : String}
    {result : Except BrokenRules Answer'}
    (same :
      grown.verbSet? id = none → result = .error (.undeclaredVerbSet id)) :
    Stands grown Rel (.error (.undeclaredVerbSet id)) result := by
  cases there : grown.verbSet? id with
  | none =>
    rw [same there]
    exact .undeclared there
  | some entry => exact .overtaken there result

/-! ## Ways and roots -/

namespace Grows

section

variable
    {book grown : RuleBook}
    {added : List Fallback}
    (grows : Grows book grown added)

include grows

/-- A step on a way is made in the grown book too. -/
theorem stands_onward
    {passed : List String}
    {id : String}
    {parent : Entry .verbSet}
    (declared : book.verbSet? id = some parent)
    (isNew : parent.name ∉ passed)
    (rest :
      Stands grown (List.Forall₂ Entry.Same)
        (ancestorsFrom book (parent.name :: passed) parent.inherit)
        (ancestorsFrom grown (parent.name :: passed) parent.inherit)) :
    Stands grown (List.Forall₂ Entry.Same)
      (ancestorsFrom book passed (some id))
        (ancestorsFrom grown passed (some id)) := by
  rcases grows.verbSets declared with ⟨kept, isKept, same⟩
  rw [same.name, same.inherit] at rest
  rw [same.name] at isNew
  rw [ancestorsFrom_onward declared (same.name ▸ isNew),
    ancestorsFrom_onward isKept isNew, same.name, same.inherit]
  exact rest.map fun _ _ chains => .cons same chains

/-- The ancestors on a way stand when the book grows. -/
theorem stands_ancestorsFrom (passed : List String) (next : Option String) :
    Stands grown (List.Forall₂ Entry.Same)
      (ancestorsFrom book passed next) (ancestorsFrom grown passed next) := by
  induction passed, next using ancestorsFrom.induct book with
  | case1 passed =>
    rw [ancestorsFrom, ancestorsFrom]
    exact .answered .nil
  | case2 passed id absent =>
    rw [ancestorsFrom_undeclared absent]
    exact stands_of_undeclared ancestorsFrom_undeclared
  | case3 passed id parent declared isNew error failed ih =>
    exact grows.stands_onward declared isNew ih
  | case4 passed id parent declared isNew further rest ih =>
    exact grows.stands_onward declared isNew ih
  | case5 passed id parent declared again =>
    rcases grows.verbSets declared with ⟨kept, isKept, same⟩
    have passedBefore : parent.name ∈ passed := not_not.mp again
    rw [ancestorsFrom_circular declared passedBefore,
      ancestorsFrom_circular isKept (same.name ▸ passedBefore)]
    exact .circular id

/-- So do the ancestors of an entry that is kept. -/
theorem stands_ancestors
    {kind : EntryKind}
    {root kept : Entry kind}
    (same : root.Same kept) :
    Stands grown (List.Forall₂ Entry.Same) (ancestors book root)
      (ancestors grown kept) := by
  have sameStart : passedAt kept = passedAt root := by
    cases kind with
    | verb => rfl
    | verbSet => exact congrArg (fun name => [name]) same.name.symm
  rw [ancestors, ancestors, sameStart, ← same.inherit]
  exact grows.stands_ancestorsFrom _ _

/-- The first fallback that matches a word is still the first. -/
theorem firstMatching_of_firstMatching
    {word : String}
    {fallback : Fallback}
    (first : FirstMatching book word fallback) :
    FirstMatching grown word fallback := by
  rcases first with ⟨earlier, later, order, isMatch, unmatched⟩
  refine ⟨earlier, later ++ added, ?_, isMatch, unmatched⟩
  rw [grows.fallbacks, order, List.append_assoc, List.cons_append]

/-- The root of a word is kept. -/
theorem exists_rootOf
    {word : String}
    (notAdded : HasNoEntry book word → HasNoEntry grown word)
    {kind : EntryKind}
    {root : Entry kind}
    (isRoot : RootOf book word root) :
    ∃ kept : Entry kind, RootOf grown word kept ∧ root.Same kept := by
  cases isRoot with
  | own member named =>
    rcases grows.verbs (verb?_of_mem member named) with ⟨kept, isKept, same⟩
    exact ⟨kept, .own (List.mem_of_find?_eq_some isKept) (name_of_verb? isKept),
      same⟩
  | fallback without first member named =>
    rcases grows.verbSets (verbSet?_name_of_mem member) with
      ⟨kept, isKept, same⟩
    have stillFirst := grows.firstMatching_of_firstMatching first
    have stillNamed := (same.name.symm).trans named
    exact ⟨kept,
      .fallback (notAdded without) stillFirst
        (mem_of_verbSet? isKept) stillNamed, same⟩

end

end Grows

/-! ## Answers -/

/-- A word with a root is conjugated by its root and the ancestors of that. -/
theorem conjugate_of_rootOf
    {book : RuleBook}
    {word : String}
    {kind : EntryKind}
    {root : Entry kind}
    (isRoot : RootOf book word root)
    (selection : Selection) :
    book.conjugate selection word =
      (ancestors book root).map fun chain =>
        some ((Ancestry.mk root chain).conjugate word selection) := by
  rw [RuleBook.conjugate, ancestryOf_of_rootOf isRoot, Ancestry.ofEntry]
  cases ancestors book root with
  | error broken => rfl
  | ok chain => rfl

/-- A word is without conjugation exactly if it has no entry and no
fallback matches it. -/
theorem conjugate_eq_none_iff (inflector : Inflector) (word : String) :
    inflector.conjugate word = .ok none ↔
      HasNoEntry inflector.book word ∧
        ∀ fallback ∈ inflector.book.fallbacks,
          fallback.pattern.isMatch word.toList = false := by
  constructor
  · intro answered
    rcases exists_prescribed inflector word with ⟨answer, prescribed⟩
    rw [prescribed.conjugate_eq] at answered
    subst answered
    cases prescribed with
    | noRule without unmatched => exact ⟨without, unmatched⟩
  · rintro ⟨without, unmatched⟩
    exact (Prescribed.noRule without unmatched).conjugate_eq

/-- A way breaks off only at a verb-set that is not declared. -/
theorem verbSet?_of_ancestorsFrom
    {book : RuleBook}
    {passed : List String}
    {next : Option String}
    {id : String}
    (broken : ancestorsFrom book passed next = .error (.undeclaredVerbSet id)) :
    book.verbSet? id = none := by
  fun_induction ancestorsFrom book passed next with
  | case1 passed => cases broken
  | case2 passed other absent =>
    cases broken
    exact absent
  | case3 passed other parent declared isNew error failed ih =>
    cases broken
    exact ih failed
  | case4 passed other parent declared isNew further rest ih => cases broken
  | case5 passed other parent declared again => cases broken

/-- So an inflector names only verb-sets as undeclared that its book does
not declare. -/
theorem verbSet?_of_conjugate
    {inflector : Inflector}
    {word id : String}
    (broken : inflector.conjugate word = .error (.undeclaredVerbSet id)) :
    inflector.book.verbSet? id = none := by
  rcases exists_prescribed inflector word with ⟨answer, prescribed⟩
  rw [prescribed.conjugate_eq] at broken
  subst broken
  cases prescribed with
  | undeclaredTarget without first undeclared =>
    exact verbSet?_eq_none_iff.mpr undeclared
  | brokenAncestry isRoot failed => exact verbSet?_of_ancestorsFrom failed

section

variable
    {book grown : RuleBook}
    {added : List Fallback}
    {word : String}

/-- An answer by a rule stands when the book grows. -/
theorem Grows.stands_conjugate
    (grows : Grows book grown added)
    (notAdded : HasNoEntry book word → HasNoEntry grown word)
    {inflector inflector' : Inflector}
    (isBook : inflector.book = book)
    (isGrown : inflector'.book = grown)
    (sameSelection : inflector'.selection = inflector.selection)
    (byRule : inflector.conjugate word ≠ .ok none) :
    Stands grown Eq (inflector.conjugate word) (inflector'.conjugate word) := by
  subst isBook isGrown
  have byRoot :
      ∀ {kind : EntryKind} {root : Entry kind},
        RootOf inflector.book word root →
        Stands inflector'.book Eq (inflector.conjugate word)
          (inflector'.conjugate word) := by
    intro kind root isRoot
    rcases grows.exists_rootOf notAdded isRoot with ⟨kept, isKept, sameRoot⟩
    rw [Inflector.conjugate, Inflector.conjugate, sameSelection,
      conjugate_of_rootOf isRoot, conjugate_of_rootOf isKept]
    apply (grows.stands_ancestors sameRoot).map
    intro chain chain' sameChain
    rw [Ancestry.conjugate_of_same sameRoot sameChain]
  rcases exists_prescribed inflector word with ⟨answer, prescribed⟩
  have answered := prescribed.conjugate_eq
  cases prescribed with
  | noRule without unmatched => exact absurd answered byRule
  | undeclaredTarget without first undeclared =>
    rw [answered]
    apply stands_of_undeclared
    intro absent
    have stillFirst := grows.firstMatching_of_firstMatching first
    have stillUndeclared := verbSet?_eq_none_iff.mp absent
    exact (Prescribed.undeclaredTarget
      (notAdded without) stillFirst stillUndeclared).conjugate_eq
  | brokenAncestry isRoot failed => exact byRoot isRoot
  | conjugated isRoot found tables => exact byRoot isRoot

/-- When a book grows, no word that gets no entry by it is disturbed.  A
conjugation stays as it is, and so does an error that a way goes round in a
circle.  An error that a verb-set is not declared stays exactly if it is
still not declared, and a word without rule stays so exactly if no added
fallback matches it. -/
theorem conjugate_of_grows
    (grows : Grows book grown added)
    (notAdded : HasNoEntry book word → HasNoEntry grown word)
    {language : String}
    {filter : Filter}
    {inflector inflector' : Inflector}
    (made : Inflector.ofBook language book filter = .ok inflector)
    (made' : Inflector.ofBook language grown filter = .ok inflector') :
    (∀ conjugation, inflector.conjugate word = .ok (some conjugation) →
      inflector'.conjugate word = .ok (some conjugation)) ∧
    (∀ id, inflector.conjugate word = .error (.circularInheritance id) →
      inflector'.conjugate word = .error (.circularInheritance id)) ∧
    (∀ id, inflector.conjugate word = .error (.undeclaredVerbSet id) →
      (inflector'.conjugate word = .error (.undeclaredVerbSet id) ↔
        ∀ entry ∈ grown.verbSets, entry.name ≠ id)) ∧
    (inflector.conjugate word = .ok none →
      (inflector'.conjugate word = .ok none ↔
        ∀ fallback ∈ added, fallback.pattern.isMatch word.toList = false)) := by
  rcases Inflector.parts_of_ofBook made with ⟨-, isBook, isFilter⟩
  rcases Inflector.parts_of_ofBook made' with ⟨-, isGrown, isFilter'⟩
  have sameSelection : inflector'.selection = inflector.selection := by
    rw [inflector'.selection_eq_admitted, inflector.selection_eq_admitted,
      isFilter, isFilter', isBook, isGrown, Filter.admitted, Filter.admitted,
      grows.forms, grows.paradigms]
  have stands :
      inflector.conjugate word ≠ .ok none →
        Stands grown Eq (inflector.conjugate word)
          (inflector'.conjugate word) :=
    grows.stands_conjugate notAdded isBook isGrown sameSelection
  refine ⟨?_, ?_, ?_, ?_⟩
  · intro conjugation answered
    exact (stands (by simp [answered])).eq_of_ok answered
  · intro id circular
    exact (stands (by simp [circular])).eq_of_circular circular
  · intro id undeclared
    rw [← verbSet?_eq_none_iff]
    constructor
    · intro stays
      exact isGrown ▸ verbSet?_of_conjugate stays
    · intro absent
      exact (stands (by simp [undeclared])).eq_of_undeclared undeclared absent
  · intro withoutRule
    rcases (conjugate_eq_none_iff inflector word).mp withoutRule with
      ⟨without, unmatched⟩
    rw [isBook] at without unmatched
    have stillWithout := notAdded without
    rw [conjugate_eq_none_iff, isGrown, grows.fallbacks]
    constructor
    · rintro ⟨-, allUnmatched⟩ fallback isAdded
      exact allUnmatched fallback (List.mem_append_right _ isAdded)
    · intro addedUnmatched
      refine ⟨stillWithout, ?_⟩
      intro fallback member
      rcases List.mem_append.mp member with isOld | isAdded
      · exact unmatched fallback isOld
      · exact addedUnmatched fallback isAdded

end

/-- A book with a fallback. -/
def bookBeforeGrowth : RuleBook where
  forms := ["prs"]
  paradigms := [⟨"1", "sg"⟩]
  fallbacks := [⟨patternIr, "ir"⟩]
  verbs := [⟨"aller", none, .empty⟩]
  verbSets := [⟨"ir", none, .empty⟩]
  verbs_distinct := by simp
  verbSets_distinct := by simp

/-- The same book with another verb, another verb-set and another fallback,
which matches no less. -/
def bookAfterGrowth : RuleBook where
  forms := ["prs"]
  paradigms := [⟨"1", "sg"⟩]
  fallbacks := [⟨patternIr, "ir"⟩, ⟨patternIr, "issant"⟩]
  verbs := [⟨"venir", some "issant", .empty⟩, ⟨"aller", none, .empty⟩]
  verbSets := [⟨"issant", some "issant", .empty⟩, ⟨"ir", none, .empty⟩]
  verbs_distinct := by simp
  verbSets_distinct := by simp

/-- A word that the fallback of the first book is for is conjugated by it
in the second. -/
theorem conjugate_of_grows_partir :
    Grows bookBeforeGrowth bookAfterGrowth [⟨patternIr, "issant"⟩] ∧
    (HasNoEntry bookBeforeGrowth "partir" →
      HasNoEntry bookAfterGrowth "partir") ∧
    ∃ inflector inflector',
      Inflector.ofBook "fr" bookBeforeGrowth {} = .ok inflector ∧
      Inflector.ofBook "fr" bookAfterGrowth {} = .ok inflector' ∧
      inflector.conjugate "partir" =
        .ok (some ⟨[⟨"prs", [("1sg", "partir")]⟩]⟩) ∧
      inflector'.conjugate "partir" =
        .ok (some ⟨[⟨"prs", [("1sg", "partir")]⟩]⟩) := by
  have grows :
      Grows bookBeforeGrowth bookAfterGrowth [⟨patternIr, "issant"⟩] := by
    refine grows_of_mem (by rfl) (by rfl) (by rfl) ?_ ?_
    · simp [bookBeforeGrowth, bookAfterGrowth]
    · simp [bookBeforeGrowth, bookAfterGrowth]
  have notAdded : HasNoEntry bookBeforeGrowth "partir" →
      HasNoEntry bookAfterGrowth "partir" := by
    intro _
    simp [HasNoEntry, bookAfterGrowth]
  rcases Inflector.exists_ofBook "fr"
      (Filter.resolve_unrestricted bookBeforeGrowth) with
    ⟨inflector, made⟩
  rcases Inflector.exists_ofBook "fr"
      (Filter.resolve_unrestricted bookAfterGrowth) with
    ⟨inflector', made'⟩
  have answered :
      inflector.conjugate "partir" =
        .ok (some ⟨[⟨"prs", [("1sg", "partir")]⟩]⟩) := by
    have first : FirstMatching bookBeforeGrowth "partir" ⟨patternIr, "ir"⟩ :=
      ⟨[], [], rfl, by rfl, by simp⟩
    have isRoot :
        RootOf bookBeforeGrowth "partir"
          (Entry.mk "ir" none .empty : Entry .verbSet) :=
      .fallback (by simp [HasNoEntry, bookBeforeGrowth]) first
        List.mem_cons_self rfl
    have alone :
        ancestors bookBeforeGrowth
          (Entry.mk "ir" none .empty : Entry .verbSet) = .ok [] := by
      rw [ancestors, ancestorsFrom]
    cases made
    rw [Inflector.conjugate, conjugate_of_rootOf isRoot, alone]
    rfl
  refine ⟨grows, notAdded, inflector, inflector', made, made', answered, ?_⟩
  exact (conjugate_of_grows grows notAdded made made').1 _ answered

/-! ## The same book -/

section

variable
    {book book' : RuleBook}
    (same : book.Same book')

include same

theorem grows_of_same : Grows book book' [] where
  forms := same.forms.symm
  paradigms := same.paradigms.symm
  fallbacks := by rw [same.fallbacks, List.append_nil]
  verbs found := exists_right_of_rel (same.verbs _) found
  verbSets declared := exists_right_of_rel (same.verbSets _) declared

theorem hasNoEntry_of_same {word : String} (without : HasNoEntry book word) :
    HasNoEntry book' word := by
  have absent := eq_none_of_rel (same.verbs word) (verb?_of_hasNoEntry without)
  intro entry member named
  rw [verb?_of_mem member named] at absent
  cases absent

/-- By the same book, words are conjugated alike. -/
theorem conjugate_of_same_book
    {inflector inflector' : Inflector}
    (isBook : inflector.book = book)
    (isBook' : inflector'.book = book')
    (sameSelection : inflector'.selection = inflector.selection)
    (word : String) :
    inflector'.conjugate word = inflector.conjugate word := by
  by_cases byRule : inflector.conjugate word = .ok none
  · rcases (conjugate_eq_none_iff inflector word).mp byRule with
      ⟨without, unmatched⟩
    rw [byRule, conjugate_eq_none_iff]
    rw [isBook] at without unmatched
    rw [isBook', ← same.fallbacks]
    exact ⟨hasNoEntry_of_same same without, unmatched⟩
  · have stands :=
      (grows_of_same same).stands_conjugate
        (hasNoEntry_of_same same) isBook isBook' sameSelection
        byRule
    cases answered : inflector.conjugate word with
    | ok answer => exact stands.eq_of_ok answered
    | error broken =>
      cases broken with
      | circularInheritance id => exact stands.eq_of_circular answered
      | undeclaredVerbSet id =>
        have absent := verbSet?_of_conjugate answered
        rw [isBook] at absent
        exact stands.eq_of_undeclared answered
          (eq_none_of_rel (same.verbSets id) absent)

end

end Inflection
