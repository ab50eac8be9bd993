import Inflection.Ancestry
import Inflection.Proofs.Names
import Mathlib.Data.List.Nodup
import Mathlib.Data.List.Perm.Subperm

/-!
# Ways through the verb-sets of a book

A way follows references from verb-set to verb-set: each verb-set on it is the
one that the reference before it names, and its own reference comes next.  A way
that comes to a dead end, where nothing is referred to or the reference is to no
verb-set of the book, is the only one from its start, and so it passes no
verb-set twice.

The search for ancestors goes along the way of an entry.  Each turn passes a
verb-set that it has not passed before, so that it ends after at most one
turn more than the book has verb-sets, and how the way ends decides what the
search comes to.
-/

namespace Inflection

open Inflection.Rules

/-- A way from a reference along some verb-sets to the reference of the
last of them. -/
inductive Way (book : RuleBook) :
    Option String → List (Entry .verbSet) → Option String → Prop where
  | here (next : Option String) : Way book next [] next
  | onward
      {id : String}
      {parent : Entry .verbSet}
      {further : List (Entry .verbSet)}
      {last : Option String}
      (declared : book.verbSet? id = some parent)
      (rest : Way book parent.inherit further last) :
      Way book (some id) (parent :: further) last

/-- A reference from which no way leads on. -/
def DeadEnd (book : RuleBook) (next : Option String) : Prop :=
  next.bind book.verbSet? = none

/-- Tells that an entry is one of a book. -/
def Declares (book : RuleBook) : {kind : EntryKind} → Entry kind → Prop
  | .verb, entry => entry ∈ book.verbs
  | .verbSet, entry => entry ∈ book.verbSets

/-- The names that a way from an entry has passed when it is behind
some verb-sets. -/
def namesPassed
    {kind : EntryKind}
    (entry : Entry kind)
    (chain : List (Entry .verbSet)) :
    List String :=
  passedAt entry ++ chain.map Entry.name

/-! ## Ways that come to a dead end -/

namespace Way

/-- From one reference there is only one way to a dead end. -/
theorem unique_of_deadEnd
    {book : RuleBook}
    {next last last' : Option String}
    {chain chain' : List (Entry .verbSet)}
    (way : Way book next chain last)
    (ended : DeadEnd book last)
    (way' : Way book next chain' last')
    (ended' : DeadEnd book last') :
    chain = chain' ∧ last = last' := by
  induction way generalizing chain' with
  | here next =>
    cases way' with
    | here => exact ⟨rfl, rfl⟩
    | onward declared rest => simp [DeadEnd, declared] at ended
  | onward declared rest ih =>
    cases way' with
    | here => simp [DeadEnd, declared] at ended'
    | onward declared' rest' =>
      rw [declared] at declared'
      cases declared'
      rcases ih ended rest' with ⟨rfl, rfl⟩
      exact ⟨rfl, rfl⟩

/-- Behind each verb-set that it passes, a way goes on from its reference. -/
theorem rest_of_append
    {book : RuleBook}
    {next last : Option String}
    {before after : List (Entry .verbSet)}
    {entry : Entry .verbSet}
    (way : Way book next (before ++ entry :: after) last) :
    Way book entry.inherit after last := by
  induction before generalizing next with
  | nil =>
    cases way with
    | onward declared rest => exact rest
  | cons first before ih =>
    cases way with
    | onward declared rest => exact ih rest

/-- A way passes verb-sets of the book only. -/
theorem mem_verbSets
    {book : RuleBook}
    {next last : Option String}
    {chain : List (Entry .verbSet)}
    (way : Way book next chain last)
    {entry : Entry .verbSet}
    (passed : entry ∈ chain) :
    entry ∈ book.verbSets := by
  induction way with
  | here next => cases passed
  | onward declared rest ih =>
    rcases List.mem_cons.mp passed with equal | later
    · subst equal
      exact mem_of_verbSet? declared
    · exact ih later

/-- A way can be continued where it ends. -/
theorem append
    {book : RuleBook}
    {start middle last : Option String}
    {chain further : List (Entry .verbSet)}
    (way : Way book start chain middle)
    (onward : Way book middle further last) :
    Way book start (chain ++ further) last := by
  induction way with
  | here next => exact onward
  | onward declared rest ih => exact .onward declared (ih onward)

/-- A way that comes to a dead end passes no name twice.  If it did, it would go
on from there in two ways of different length. -/
theorem nodup_of_deadEnd
    {book : RuleBook}
    {next last : Option String}
    {chain : List (Entry .verbSet)}
    (way : Way book next chain last)
    (ended : DeadEnd book last) :
    (chain.map Entry.name).Nodup := by
  induction way with
  | here next => exact List.nodup_nil
  | @onward id parent further last declared rest ih =>
    rw [List.map_cons, List.nodup_cons]
    refine ⟨?_, ih ended⟩
    intro again
    rcases List.mem_map.mp again with ⟨other, passed, same⟩
    have equal : other = parent := by
      have found := verbSet?_name_of_mem (rest.mem_verbSets passed)
      rw [same, name_of_verbSet? declared, declared] at found
      exact (Option.some.inj found).symm
    subst equal
    rcases List.append_of_mem passed with ⟨before, after, split⟩
    have shorter : Way book other.inherit after last :=
      (split ▸ rest).rest_of_append
    have same_chain := (rest.unique_of_deadEnd ended shorter ended).1
    have lengths := congrArg List.length split
    rw [same_chain, List.length_append, List.length_cons] at lengths
    omega

/-- The same with the name of the entry that the way starts from. -/
theorem nodup_namesPassed
    {book : RuleBook}
    {kind : EntryKind}
    {entry : Entry kind}
    (declared : Declares book entry)
    {chain : List (Entry .verbSet)}
    {last : Option String}
    (way : Way book entry.inherit chain last)
    (ended : DeadEnd book last) :
    (namesPassed entry chain).Nodup := by
  cases kind with
  | verb => exact way.nodup_of_deadEnd ended
  | verbSet =>
    have longer : Way book (some entry.name) (entry :: chain) last :=
      .onward (verbSet?_name_of_mem declared) way
    exact longer.nodup_of_deadEnd ended

/-- Ways that pass no name twice are no longer than the book has verb-sets. -/
theorem length_le
    {book : RuleBook}
    {next last : Option String}
    {chain : List (Entry .verbSet)}
    (way : Way book next chain last)
    (distinct : (chain.map Entry.name).Nodup) :
    chain.length ≤ book.verbSets.length := by
  have listed : chain.map Entry.name ⊆ book.verbSets.map Entry.name :=
    List.map_subset _ fun _ passed => way.mem_verbSets passed
  have shorter := (List.subperm_of_subset distinct listed).length_le
  rwa [List.length_map, List.length_map] at shorter

end Way

/-- Ancestors that are found are on a way that ends where nothing is
referred to. -/
theorem way_of_ancestorsFrom
    {book : RuleBook}
    {passed : List String}
    {next : Option String}
    {chain : List (Entry .verbSet)}
    (found : ancestorsFrom book passed next = .ok chain) :
    Way book next chain none := by
  fun_induction ancestorsFrom book passed next generalizing chain with
  | case1 passed =>
    cases found
    exact .here none
  | case2 passed id absent => cases found
  | case3 passed id parent declared isNew error failed ih => cases found
  | case4 passed id parent declared isNew further rest ih =>
    cases found
    exact .onward declared (ih rest)
  | case5 passed id parent declared again => cases found

end Inflection
