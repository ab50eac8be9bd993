import Inflection.Proofs.AncestorSearch

/-!
# Ancestors of ancestors

The search from a verb-set and the search from its parent have passed different
names when they come to the same reference.  What they come to is still the
same, but for circles: the way from the verb-set is the way from its parent
with the parent in front, and a way that comes to a dead end passes no name
twice in either search.

Where the way goes on in a circle, each search ends at the first verb-set that
it passes again.  That is the same one, unless the verb-set itself is on the
circle; then the search comes back to it first.
-/

namespace Inflection

open Inflection.Rules

/-- Tells that a verb-set lies on the circle of references that leads from a
name back to it. -/
def OnCircle (book : RuleBook) (id : String) (set : Entry .verbSet) : Prop :=
  ∃ circle, Way book (some id) circle (some id) ∧ set ∈ circle

/-! ## Ways, entry by entry -/

section

variable
    {book : RuleBook}
    {kind : EntryKind}
    {entry : Entry kind}
    (declared : Declares book entry)

include declared

/-- The search from an entry of a book ends as the way of the entry does. -/
theorem searchEnds_ancestors :
    SearchEnds book entry (ancestors book entry) := by
  rcases AncestorSearch.start_ends book entry with ⟨answer, ended⟩
  have asTheWay :=
    (AncestorSearch.start_follows book entry).after_ended declared ended
  rw [ancestors_of_searchEnds asTheWay]
  exact asTheWay

theorem ancestors_eq_ok_iff
    {chain : List (Entry .verbSet)} :
    ancestors book entry = .ok chain ↔ Way book entry.inherit chain none := by
  constructor
  · exact way_of_ancestorsFrom
  · intro way
    have distinct := way.nodup_namesPassed declared rfl
    exact ancestors_of_searchEnds
      (.ended way distinct
        (way.length_le (List.Nodup.of_append_right distinct)))

theorem ancestors_eq_undeclared_iff
    {id : String} :
    ancestors book entry = .error (.undeclaredVerbSet id) ↔
      book.verbSet? id = none ∧
        ∃ chain, Way book entry.inherit chain (some id) := by
  constructor
  · intro failed
    have ends := searchEnds_ancestors declared
    rw [failed] at ends
    cases ends with
    | undeclared way distinct absent =>
      exact ⟨(verbSet_eq_error_iff.mp absent).1, _, way⟩
  · rintro ⟨absent, chain, way⟩
    have distinct := way.nodup_namesPassed declared absent
    exact ancestors_of_searchEnds
      (.undeclared way distinct (verbSet_eq_error_iff.mpr ⟨absent, rfl⟩))

end

/-! ## From an entry to its parent -/

section

variable
    {book : RuleBook}
    {set parent : Entry .verbSet}
    {id : String}
    (inherits : set.inherit = some id)
    (isParent : book.verbSet? id = some parent)

include inherits isParent

/-- The way of an entry is the way of its parent with the parent in front. -/
theorem way_inherit_cons_iff
    {further : List (Entry .verbSet)}
    {last : Option String} :
    Way book set.inherit (parent :: further) last ↔
      Way book parent.inherit further last := by
  rw [inherits]
  constructor
  · intro way
    cases way with
    | onward _ rest => exact rest
  · exact .onward isParent

/-- A way from an entry to a reference to nothing, or to no verb-set, leads
over its parent. -/
theorem exists_cons_of_deadEnd
    {chain : List (Entry .verbSet)}
    {last : Option String}
    (way : Way book set.inherit chain last)
    (ended : DeadEnd book last) :
    ∃ further, chain = parent :: further := by
  rw [inherits] at way
  cases way with
  | here =>
    rw [DeadEnd, Option.bind_some, isParent] at ended
    cases ended
  | onward declared rest =>
    cases isParent.symm.trans declared
    exact ⟨_, rfl⟩

end

/-- A verb-set leads to an undeclared one exactly if its parent leads there. -/
theorem ancestors_undeclared_iff_parent
    {book : RuleBook}
    {set parent : Entry .verbSet}
    {id : String}
    (member : set ∈ book.verbSets)
    (inherits : set.inherit = some id)
    (isParent : book.verbSet? id = some parent)
    (missing : String) :
    ancestors book set = .error (.undeclaredVerbSet missing) ↔
      ancestors book parent = .error (.undeclaredVerbSet missing) := by
  have declared : Declares book set := member
  have parentDeclared : Declares book parent := mem_of_verbSet? isParent
  rw [ancestors_eq_undeclared_iff declared,
    ancestors_eq_undeclared_iff parentDeclared]
  constructor
  · rintro ⟨absent, chain, way⟩
    rcases exists_cons_of_deadEnd inherits isParent way absent with
      ⟨further, rfl⟩
    exact ⟨absent, further, (way_inherit_cons_iff inherits isParent).mp way⟩
  · rintro ⟨absent, further, way⟩
    exact ⟨absent, parent :: further,
      (way_inherit_cons_iff inherits isParent).mpr way⟩

/-! ## Circles -/

/-- Ways do not leave verb-sets whose references lead to one another. -/
theorem Way.mem_of_closed
    {book : RuleBook}
    {next last : Option String}
    {chain closed : List (Entry .verbSet)}
    (way : Way book next chain last)
    (starts : ∀ set, next.bind book.verbSet? = some set → set ∈ closed)
    (stays : ∀ entry ∈ closed, ∀ set,
      entry.inherit.bind book.verbSet? = some set → set ∈ closed)
    {entry : Entry .verbSet}
    (passed : entry ∈ chain) :
    entry ∈ closed := by
  induction way with
  | here next => cases passed
  | @onward id parent further last declared rest ih =>
    have isIn : parent ∈ closed := starts parent declared
    rcases List.mem_cons.mp passed with equal | later
    · rw [equal]
      exact isIn
    · exact ih (stays parent isIn) later

/-- On a way to one of the verb-sets that it has passed, all references lead to
such verb-sets. -/
theorem Way.mem_of_inherit
    {book : RuleBook}
    {next : Option String}
    {chain : List (Entry .verbSet)}
    {again : Entry .verbSet}
    (way : Way book next chain (some again.name))
    (passed : again ∈ chain)
    {entry : Entry .verbSet}
    (isIn : entry ∈ chain)
    {set : Entry .verbSet}
    (follows : entry.inherit.bind book.verbSet? = some set) :
    set ∈ chain := by
  have known := verbSet?_name_of_mem (way.mem_verbSets passed)
  rcases List.append_of_mem isIn with ⟨before, after, split⟩
  rw [split] at way
  have rest := way.rest_of_append
  generalize entry.inherit = next' at rest follows
  cases rest with
  | here =>
    rw [Option.bind_some, known] at follows
    cases follows
    exact passed
  | onward declared further =>
    rw [Option.bind_some, declared] at follows
    cases follows
    rw [split]
    simp

/-- A circle through a verb-set that a way comes back to goes through verb-sets
of this way only. -/
theorem OnCircle.mem_of_way
    {book : RuleBook}
    {next : Option String}
    {chain : List (Entry .verbSet)}
    {again set : Entry .verbSet}
    (way : Way book next chain (some again.name))
    (passed : again ∈ chain)
    (onCircle : OnCircle book again.name set) :
    set ∈ chain := by
  rcases onCircle with ⟨circle, round, onRound⟩
  apply round.mem_of_closed _ (fun entry isIn other =>
    way.mem_of_inherit passed isIn) onRound
  intro other follows
  rw [Option.bind_some, verbSet?_name_of_mem (way.mem_verbSets passed)]
    at follows
  cases follows
  exact passed

/-- In front of each verb-set that it passes, a way leads to a
reference to it. -/
theorem Way.before_of_append
    {book : RuleBook}
    {next last : Option String}
    {before after : List (Entry .verbSet)}
    {entry : Entry .verbSet}
    (way : Way book next (before ++ entry :: after) last) :
    Way book next before (some entry.name) := by
  induction before generalizing next with
  | nil =>
    cases way with
    | onward declared rest =>
      rw [name_of_verbSet? declared]
      exact .here _
  | cons first before ih =>
    cases way with
    | onward declared rest => exact .onward declared (ih rest)

section

variable
    {book : RuleBook}
    {set parent : Entry .verbSet}
    {id : String}
    {chain : List (Entry .verbSet)}

/-- A search that comes back to the verb-set that it started from ends there. -/
theorem ancestors_of_mem_way
    {last : Option String}
    (declared : set ∈ book.verbSets)
    (way : Way book set.inherit chain last)
    (distinct : (chain.map Entry.name).Nodup)
    (passed : set ∈ chain) :
    ancestors book set = .error (.circularInheritance set.name) := by
  rcases List.append_of_mem passed with ⟨before, after, rfl⟩
  rw [List.map_append, List.map_cons, List.nodup_middle,
    ← List.cons_append] at distinct
  have back := way.before_of_append
  exact ancestors_of_searchEnds
    (.circular back (List.Nodup.of_append_left distinct) List.mem_cons_self
      (.onward (verbSet?_name_of_mem declared) back))

/-- Any other search goes on to the circle that its way leads into. -/
theorem ancestors_of_not_mem_way
    {again : Entry .verbSet}
    (declared : set ∈ book.verbSets)
    (way : Way book set.inherit chain (some again.name))
    (distinct : (chain.map Entry.name).Nodup)
    (passed : again ∈ chain)
    (aside : set ∉ chain) :
    ancestors book set = .error (.circularInheritance again.name) := by
  have isNew : set.name ∉ chain.map Entry.name := by
    intro known
    rcases List.mem_map.mp known with ⟨other, isIn, same⟩
    have found := verbSet?_name_of_mem (way.mem_verbSets isIn)
    rw [same, verbSet?_name_of_mem declared] at found
    cases found
    exact aside isIn
  have resolves := verbSet?_name_of_mem (way.mem_verbSets passed)
  rcases List.append_of_mem passed with ⟨before, circle, split⟩
  have rest : Way book again.inherit circle (some again.name) :=
    (split ▸ way).rest_of_append
  exact ancestors_of_searchEnds
    (.circular way (List.nodup_cons.mpr ⟨isNew, distinct⟩)
      (List.mem_cons_of_mem _ (List.mem_map_of_mem passed))
        (.onward resolves rest))

/-- A circle that the way from a parent leads into goes through the verb-set
itself exactly if that way passes it. -/
theorem onCircle_iff_mem_way
    {again : Entry .verbSet}
    (inherits : set.inherit = some id)
    (isParent : book.verbSet? id = some parent)
    (way : Way book set.inherit (parent :: chain) (some again.name))
    (distinct : ((parent :: chain).map Entry.name).Nodup)
    (passed : again ∈ parent :: chain) :
    OnCircle book again.name set ↔ set ∈ parent :: chain := by
  constructor
  · exact OnCircle.mem_of_way way passed
  · intro isIn
    rcases List.append_of_mem isIn with ⟨before, after, split⟩
    have rest : Way book set.inherit after (some again.name) :=
      (split ▸ way).rest_of_append
    rw [inherits] at rest way
    cases rest with
    | here => exact ⟨parent :: chain, way, isIn⟩
    | @onward _ other further _ declared onward =>
      -- the parent would be passed a second time, behind the verb-set
      cases isParent.symm.trans declared
      exfalso
      have alone : parent ∉ chain := by
        intro twice
        exact (List.nodup_cons.mp distinct).1 (List.mem_map_of_mem twice)
      cases before with
      | nil =>
        cases split
        exact alone List.mem_cons_self
      | cons first before =>
        cases split
        exact alone (by simp)

/-- Where the search from a parent ends in a circle, the search from the
verb-set ends in it too: at the verb-set itself, if it is on the circle, and
otherwise at the same place. -/
theorem ancestors_of_parent_circular
    (declared : set ∈ book.verbSets)
    (inherits : set.inherit = some id)
    (isParent : book.verbSet? id = some parent)
    {again : String}
    (circular : ancestors book parent = .error (.circularInheritance again)) :
    (OnCircle book again set →
      ancestors book set = .error (.circularInheritance set.name)) ∧
    (¬ OnCircle book again set →
      ancestors book set = .error (.circularInheritance again)) := by
  have parentDeclared : Declares book parent := mem_of_verbSet? isParent
  have ends := searchEnds_ancestors parentDeclared
  rw [circular] at ends
  cases ends with
  | @circular chain circle set' _ fromParent distinct passed returns =>
    have way := (way_inherit_cons_iff inherits isParent).mpr fromParent
    rcases List.mem_map.mp
        (show again ∈ (parent :: chain).map Entry.name from passed) with
      ⟨entry, isPassed, rfl⟩
    rw [onCircle_iff_mem_way inherits isParent way distinct isPassed]
    exact ⟨ancestors_of_mem_way declared way distinct,
      ancestors_of_not_mem_way declared way distinct isPassed⟩

end

/-! ## Handed down -/

/-- Each ancestor of an entry has the ancestors that come behind it. -/
theorem ancestors_of_mem_ancestors
    {book : RuleBook}
    {kind : EntryKind}
    {entry : Entry kind}
    {chain : List (Entry .verbSet)}
    (found : ancestors book entry = .ok chain)
    (position : Nat)
    (inside : position < chain.length) :
    ancestors book chain[position] = .ok (chain.drop (position + 1)) := by
  have way := way_of_ancestorsFrom found
  have declared : Declares book chain[position] :=
    way.mem_verbSets (List.getElem_mem inside)
  have split :
      chain.take position ++ chain[position] :: chain.drop (position + 1) =
        chain := by
    rw [← List.drop_eq_getElem_cons inside, List.take_append_drop]
  rw [← split] at way
  exact (ancestors_eq_ok_iff declared).mpr way.rest_of_append

/-- The ancestors of a verb are its parent and then the ancestors
of the parent. -/
theorem ancestors_of_verb
    (book : RuleBook)
    {verb : Entry .verb}
    {id : String}
    (inherits : verb.inherit = some id) :
    ancestors book verb =
      (book.verbSet id).bind fun parent =>
        (ancestors book parent).map (parent :: ·) := by
  unfold ancestors passedAt
  rw [inherits]
  cases resolved : book.verbSet? id with
  | none =>
    rw [ancestorsFrom_undeclared resolved,
      verbSet_eq_error_iff.mpr ⟨resolved, rfl⟩]
    rfl
  | some parent =>
    rw [ancestorsFrom_onward resolved List.not_mem_nil,
      verbSet_eq_ok_iff.mpr resolved]
    rfl

/-- Ancestors are handed down.  Each ancestor of an entry has the rest of the
ancestors as its own; a verb has its parent and what the parent has; and so has
a verb-set, unless its parent has a broken way. Then the way of the verb-set is
broken in the same place, but that a circle through the verb-set itself is
noticed there. -/
theorem ancestors_handed_down (book : RuleBook) :
    (∀ {kind : EntryKind} (entry : Entry kind) (chain : List (Entry .verbSet)),
      ancestors book entry = .ok chain →
        ∀ (position : Nat) (inside : position < chain.length),
          ancestors book chain[position] = .ok (chain.drop (position + 1))) ∧
    (∀ (verb : Entry .verb) (id : String),
      verb.inherit = some id →
        ancestors book verb =
          (book.verbSet id).bind fun parent =>
            (ancestors book parent).map (parent :: ·)) ∧
    ∀ set ∈ book.verbSets, ∀ (id : String) (parent : Entry .verbSet),
      set.inherit = some id →
      book.verbSet id = .ok parent →
        (∀ rest,
          ancestors book set = .ok (parent :: rest) ↔
            ancestors book parent = .ok rest) ∧
        (∀ missing,
          ancestors book set = .error (.undeclaredVerbSet missing) ↔
            ancestors book parent = .error (.undeclaredVerbSet missing)) ∧
        ∀ again,
          ancestors book parent = .error (.circularInheritance again) →
            (OnCircle book again set →
              ancestors book set = .error (.circularInheritance set.name)) ∧
            (¬ OnCircle book again set →
              ancestors book set = .error (.circularInheritance again)) := by
  refine ⟨?_, ?_, ?_⟩
  · intro kind entry chain found
    exact ancestors_of_mem_ancestors found
  · intro verb id inherits
    exact ancestors_of_verb book inherits
  · intro set member id parent inherits resolved
    have declared : Declares book set := member
    have isParent := verbSet_eq_ok_iff.mp resolved
    have parentDeclared : Declares book parent := mem_of_verbSet? isParent
    refine ⟨?_, ?_, ?_⟩
    · intro rest
      rw [ancestors_eq_ok_iff declared, ancestors_eq_ok_iff parentDeclared,
        way_inherit_cons_iff inherits isParent]
    · intro missing
      exact ancestors_undeclared_iff_parent member inherits isParent missing
    · intro again circular
      exact ancestors_of_parent_circular member inherits isParent circular

/-- A verb-set without rules of its own. -/
def plainSet (name : String) (inherit : Option String) : Entry .verbSet :=
  ⟨name, inherit, .empty⟩

/-- A verb at the end of a chain of verb-sets. -/
def verbOfChain : Entry .verb :=
  ⟨"manger", some "ger", .empty⟩

/-- A book with a chain of verb-sets, and with a circle that a
verb-set leads into. -/
def bookWithChainAndCircle : RuleBook where
  verbs := [verbOfChain]
  verbSets :=
    [plainSet "base" none, plainSet "er" (some "base"),
      plainSet "ger" (some "er"),
      plainSet "ir" (some "tenir"), plainSet "tenir" (some "venir"),
      plainSet "venir" (some "tenir")]
  verbs_distinct := by simp
  verbSets_distinct := by simp [plainSet]

/-- In this book the chain of the verb is handed down.  The search from the
verb-set on the circle ends at itself, and the one from the verb-set in front of
the circle ends where the search from its parent does. -/
theorem ancestors_handed_down_chain_and_circle :
    ancestors bookWithChainAndCircle verbOfChain =
      .ok [plainSet "ger" (some "er"), plainSet "er" (some "base"),
        plainSet "base" none] ∧
    ancestors bookWithChainAndCircle (plainSet "er" (some "base")) =
      .ok [plainSet "base" none] ∧
    ancestors bookWithChainAndCircle (plainSet "tenir" (some "venir")) =
      .error (.circularInheritance "tenir") ∧
    OnCircle bookWithChainAndCircle "tenir" (plainSet "venir" (some "tenir")) ∧
    ancestors bookWithChainAndCircle (plainSet "venir" (some "tenir")) =
      .error (.circularInheritance "venir") ∧
    ¬ OnCircle bookWithChainAndCircle "tenir" (plainSet "ir" (some "tenir")) ∧
    ancestors bookWithChainAndCircle (plainSet "ir" (some "tenir")) =
      .error (.circularInheritance "tenir") := by
  have handedDown := ancestors_handed_down bookWithChainAndCircle
  have chain :
      ancestors bookWithChainAndCircle verbOfChain =
        .ok [plainSet "ger" (some "er"), plainSet "er" (some "base"),
          plainSet "base" none] := by
    cbv
  have circle :
      ancestors bookWithChainAndCircle (plainSet "tenir" (some "venir")) =
        .error (.circularInheritance "tenir") := by
    cbv
  have venir : bookWithChainAndCircle.verbSet? "venir" =
      some (plainSet "venir" (some "tenir")) := by
    rfl
  have tenir : bookWithChainAndCircle.verbSet? "tenir" =
      some (plainSet "tenir" (some "venir")) := by
    rfl
  have round :
      Way bookWithChainAndCircle (some "tenir")
        [plainSet "tenir" (some "venir"),
          plainSet "venir" (some "tenir")] (some "tenir") :=
    .onward tenir (.onward venir (.here _))
  have onCircle :
      OnCircle bookWithChainAndCircle "tenir"
        (plainSet "venir" (some "tenir")) :=
    ⟨_, round, by simp⟩
  have offCircle :
      ¬ OnCircle bookWithChainAndCircle "tenir"
        (plainSet "ir" (some "tenir")) := by
    intro onOther
    have isPassed :
        plainSet "tenir" (some "venir") ∈
          [plainSet "tenir" (some "venir"), plainSet "venir" (some "tenir")] :=
      List.mem_cons_self
    have isIn := OnCircle.mem_of_way round isPassed onOther
    simp [plainSet] at isIn
  have fromVenir :=
    handedDown.2.2 (plainSet "venir" (some "tenir"))
      (by simp [bookWithChainAndCircle]) "tenir"
      (plainSet "tenir" (some "venir")) rfl (verbSet_eq_ok_iff.mpr tenir)
  have fromIr :=
    handedDown.2.2 (plainSet "ir" (some "tenir"))
      (by simp [bookWithChainAndCircle]) "tenir"
      (plainSet "tenir" (some "venir")) rfl (verbSet_eq_ok_iff.mpr tenir)
  exact ⟨chain, handedDown.1 verbOfChain _ chain 1 (by decide), circle,
    onCircle, (fromVenir.2.2 "tenir" circle).1 onCircle, offCircle,
    (fromIr.2.2 "tenir" circle).2 offCircle⟩

end Inflection
