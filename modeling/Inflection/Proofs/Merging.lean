import Inflection.Proofs.Sameness

/-!
# Merging repeated declarations

The declarations of a level may be merged in more than one way: each into those
before it, or the later ones among themselves first; and the levels beneath them
are taken in any order.  Whatever the way, where the first declaration has the
say, what comes of it says what the first of them says that says anything.

So the ways of merging a row of declarations do not differ, and repeating a
declaration adds nothing.
-/

namespace Inflection.Rules

/-! ## Rows of declarations -/

section

variable {Level : Type}

/-- Tells what a row of declarations may come to, merged two
neighbours at a time. -/
inductive RowMergesTo
    (MergesTo : Level → Level → Level → Prop) :
    List Level → Level → Prop where
  | single (level : Level) : RowMergesTo MergesTo [level] level
  | merged
      {earlier later : List Level}
      {first second merged : Level}
      (left : RowMergesTo MergesTo earlier first)
      (right : RowMergesTo MergesTo later second)
      (merges : MergesTo first second merged) :
      RowMergesTo MergesTo (earlier ++ later) merged

/-- Tells that two levels say the same in everything in which the first
declaration has the say. -/
def Alike
    (MergesTo : Level → Level → Level → Prop)
    (left right : Level) :
    Prop :=
  ∀ {Said : Type} (says? : Level → Option Said),
    FirstAlwaysWins MergesTo says? → says? left = says? right

variable {MergesTo : Level → Level → Level → Prop}

/-- What comes of a row says what the first of the row says that
says anything. -/
theorem RowMergesTo.says?_eq
    {Said : Type}
    {says? : Level → Option Said}
    (wins : FirstAlwaysWins MergesTo says?)
    {row : List Level}
    {merged : Level}
    (merges : RowMergesTo MergesTo row merged) :
    says? merged = row.findSome? says? := by
  induction merges with
  | single level => rw [List.findSome?_singleton]
  | merged left right merges leftIh rightIh =>
    rw [wins _ _ _ merges, leftIh, rightIh, List.findSome?_append]

theorem rowMergesTo_pair
    {first later merged : Level}
    (merges : MergesTo first later merged) :
    RowMergesTo MergesTo [first, later] merged :=
  .merged (.single first) (.single later) merges

/-- All ways of merging a row come to the same. -/
theorem RowMergesTo.alike
    {row : List Level}
    {left right : Level}
    (isLeft : RowMergesTo MergesTo row left)
    (isRight : RowMergesTo MergesTo row right) :
    Alike MergesTo left right := by
  intro Said says? wins
  rw [isLeft.says?_eq wins, isRight.says?_eq wins]

/-- A declaration merged into itself comes to itself. -/
theorem alike_of_mergesTo_self
    {level merged : Level}
    (merges : MergesTo level level merged) :
    Alike MergesTo merged level := by
  intro Said says? wins
  rw [wins _ _ _ merges, Option.or_self]

end

/-! ## What is under a name -/

/-- Tells what is under a name after merging: what the two had there combined,
or else what the one had that had anything. -/
inductive United {Value : Type} (Combines : Value → Value → Value → Prop) :
    Option Value → Option Value → Option Value → Prop where
  | neither : United Combines none none none
  | first (value : Value) : United Combines (some value) none (some value)
  | later (value : Value) : United Combines none (some value) (some value)
  | both
      {first later combined : Value}
      (combines : Combines first later combined) :
      United Combines (some first) (some later) (some combined)

section

variable
    {Value : Type}
    {Combines Combines' : Value → Value → Value → Prop}
    {first later merged : Option Value}

theorem united_none
    (first : Option Value) :
    United Combines first none first := by
  cases first with
  | none => exact .neither
  | some value => exact .first value

theorem United.eq_first
    (united : United Combines first none merged) :
    merged = first := by
  cases united with
  | neither => rfl
  | first value => rfl

theorem United.imp
    (united : United Combines first later merged)
    (each : ∀ first later combined,
      Combines first later combined → Combines' first later combined) :
    United Combines' first later merged := by
  cases united with
  | neither => exact .neither
  | first value => exact .first value
  | later value => exact .later value
  | both combines => exact .both (each _ _ _ combines)

end

namespace Keyed

section

variable
    {Value : Type}
    {Combines : Value → Value → Value → Prop}
    {first later result : Keyed Value}
    {entries : List (String × Value)}

/-- Putting values leaves alone what is under other names. -/
theorem PutsAllTo.find?_of_not_mem
    (puts : first.PutsAllTo Combines entries result)
    {name : String}
    (absent : name ∉ entries.map Prod.fst) :
    result.find? name = first.find? name := by
  induction puts with
  | nil keyed => rfl
  | cons single others ih =>
    rcases single with ⟨combine, combines, rfl⟩
    rw [List.map_cons, List.mem_cons, not_or] at absent
    rw [ih absent.2, find?_put, if_neg absent.1]

/-- Under each name at most one value is put, so it is combined with what was
there before. -/
theorem PutsAllTo.united
    (puts : first.PutsAllTo Combines entries result)
    (distinct : (entries.map Prod.fst).Nodup)
    (name : String) :
    United Combines (first.find? name) (saidUnder name some entries)
      (result.find? name) := by
  induction puts with
  | nil keyed => exact united_none _
  | @cons keyed next result entry rest single others ih =>
    rcases single with ⟨combine, combines, rfl⟩
    rw [List.map_cons, List.nodup_cons] at distinct
    rw [saidUnder_cons]
    by_cases here : entry.1 = name
    · subst here
      -- The name does not come again, so what is put there now is
      -- there in the end.
      rw [others.find?_of_not_mem distinct.1, find?_put, if_pos rfl, if_pos rfl,
        Option.some_or]
      cases there : keyed.find? entry.1 with
      | none => exact .later entry.2
      | some earlier => exact .both (combines earlier there)
    · have elsewhere : ¬ name = entry.1 := fun equal => here equal.symm
      have further := ih distinct.2
      rw [find?_put, if_neg elsewhere] at further
      rw [if_neg here, Option.none_or]
      exact further

theorem MergesTo.united
    {merged : Keyed Value}
    (merges : MergesTo Combines first later merged)
    (name : String) :
    United Combines (first.find? name) (later.find? name)
      (merged.find? name) := by
  rcases merges with ⟨order, perm, puts⟩
  have distinct := (perm.map Prod.fst).nodup_iff.mpr later.distinct
  have united := puts.united distinct name
  rw [saidUnder_of_perm perm later.distinct, ← bind_find?_eq_saidUnder,
    Option.bind_fun_some]
    at united
  exact united

end

end Keyed

/-! ## Persons and forms -/

/-- Tells that a person says what the first of two declarations says, and of a
quantity what the later one says if the first has none. -/
structure PersonRules.FirstBefore
    (first later merged : PersonRules) :
    Prop where
  own : merged.own = first.own
  quantities (quantity : String) :
    merged.quantities.find? quantity =
      (first.quantities.find? quantity).or (later.quantities.find? quantity)

/-- Tells that a form says what the first of two declarations says, and that its
persons are those of both: a person that only one has is as it is there, and a
person that both have is united from them. -/
structure FormRules.FirstBefore (first later merged : FormRules) : Prop where
  modifiers : merged.modifiers = first.modifiers
  persons (person : String) :
    United PersonRules.FirstBefore (first.persons.find? person)
      (later.persons.find? person)
      (merged.persons.find? person)

theorem eq_or_of_united
    {first later merged : Option QuantityRules}
    (united : United QuantityRules.MergesTo first later merged) :
    merged = first.or later := by
  cases united with
  | neither => rfl
  | first value => rfl
  | later value => rfl
  | both merges => exact congrArg some merges

theorem PersonRules.firstBefore_of_mergesTo
    (first later merged : PersonRules)
    (merges : PersonRules.MergesTo first later merged) :
    PersonRules.FirstBefore first later merged where
  own := merges.1
  quantities quantity := eq_or_of_united (merges.2.united quantity)

theorem FormRules.firstBefore_of_mergesTo
    (first later merged : FormRules)
    (merges : FormRules.MergesTo first later merged) :
    FormRules.FirstBefore first later merged where
  modifiers := merges.1
  persons person :=
    (merges.2.united person).imp PersonRules.firstBefore_of_mergesTo

/-- Nothing comes of a later declaration without quantities. -/
theorem PersonRules.FirstBefore.same_first
    {first later merged : PersonRules}
    (before : PersonRules.FirstBefore first later merged)
    (without : ∀ quantity, later.quantities.find? quantity = none) :
    merged.Same first := by
  refine ⟨before.own, ?_⟩
  intro quantity
  rw [before.quantities, without, Option.or_none]
  exact rel_refl Eq.refl _

/-- Nothing comes of a later declaration without persons. -/
theorem FormRules.FirstBefore.same_first
    {first later merged : FormRules}
    (before : FormRules.FirstBefore first later merged)
    (without : ∀ person, later.persons.find? person = none) :
    merged.Same first := by
  refine ⟨before.modifiers, ?_⟩
  intro person
  have united := before.persons person
  rw [without] at united
  rw [united.eq_first]
  exact rel_refl PersonRules.Same.refl _

/-- Persons that are alike have the same rules. -/
theorem PersonRules.same_of_alike
    (left right : PersonRules)
    (alike : Alike PersonRules.MergesTo left right) :
    left.Same right := by
  constructor
  · exact Option.some.inj (alike _ firstAlwaysWins_personOwn)
  · intro quantity
    rw [alike _ (firstAlwaysWins_quantityOfPerson quantity)]
    exact rel_refl Eq.refl _

/-- Forms that are alike have the same rules. -/
theorem FormRules.same_of_alike
    (left right : FormRules)
    (alike : Alike FormRules.MergesTo left right) :
    left.Same right := by
  constructor
  · exact Option.some.inj (alike _ firstAlwaysWins_formModifiers)
  · intro person
    -- Every person says something of itself, so both forms have the person or
    -- neither has.
    have own :=
      alike _ (firstAlwaysWins_personOfForm firstAlwaysWins_personOwn person)
    cases isLeft : left.persons.find? person with
    | none =>
      cases isRight : right.persons.find? person with
      | none => exact .none
      | some rightRules => simp [isLeft, isRight] at own
    | some leftRules =>
      cases isRight : right.persons.find? person with
      | none => simp [isLeft, isRight] at own
      | some rightRules =>
        refine .some (PersonRules.same_of_alike _ _ ?_)
        intro Said says? wins
        have said := alike _ (firstAlwaysWins_personOfForm wins person)
        simpa only [isLeft, isRight, Option.bind_some] using said

/-! ## The laws -/

/-- The laws of merging repeated declarations of a level.  They hold up to
declarations that say the same, and in whatever order the levels beneath are
taken each time. -/
structure MergesLawfully {Level : Type}
    (Same : Level → Level → Prop)
    (MergesTo : Level → Level → Level → Prop)
    (merge : Level → Level → Level) : Prop where
  /-- Merging comes to something: the order in which the levels beneath are kept
  is one of the orders. -/
  merge_mergesTo (first later : Level) :
    MergesTo first later (merge first later)
  /-- The order does not matter. -/
  anyOrder {first later left right : Level} :
    MergesTo first later left → MergesTo first later right → Same left right
  /-- Nor does it matter whether the third declaration is merged into the first
  two, or the last two are merged among themselves before. -/
  assoc {first second third earlier later left right : Level} :
    MergesTo first second earlier → MergesTo earlier third left →
      MergesTo second third later → MergesTo first later right → Same left right
  /-- A declaration merged into itself stays as it is. -/
  self {level merged : Level} : MergesTo level level merged → Same merged level

/-- Levels are merged lawfully if they are the same wherever they are alike. -/
theorem mergesLawfully_of_alike
    {Level : Type}
    {Same : Level → Level → Prop}
    {MergesTo : Level → Level → Level → Prop}
    {merge : Level → Level → Level}
    (mergesTo_merge : ∀ first later, MergesTo first later (merge first later))
    (same_of_alike :
      ∀ left right, Alike MergesTo left right → Same left right) :
    MergesLawfully Same MergesTo merge where
  merge_mergesTo := mergesTo_merge
  anyOrder isLeft isRight :=
    same_of_alike _ _
      ((rowMergesTo_pair isLeft).alike (rowMergesTo_pair isRight))
  assoc {first second third earlier later left right} isEarlier isLeft isLater
    isRight := by
    have leftRow : RowMergesTo MergesTo [first, second, third] left :=
      .merged (rowMergesTo_pair isEarlier) (.single third) isLeft
    have rightRow : RowMergesTo MergesTo [first, second, third] right :=
      .merged (.single first) (rowMergesTo_pair isLater) isRight
    exact same_of_alike _ _ (leftRow.alike rightRow)
  self merges := same_of_alike _ _ (alike_of_mergesTo_self merges)

/-- Repeated declarations merge lawfully, the first before the later ones.

For forms and for persons alike, merging comes to the same in whatever order the
levels beneath are taken; it is associative; and a declaration merged into
itself stays as it is, as does one that another without any levels beneath is
merged into.  What is merged says of itself what the first declaration says.
Under each name it has what the first has there, or else what the later one has;
and where both have a person, that is marked and modified as in the first, and
has the quantities of both, those of the first before those of the later one. -/
theorem repeated_declarations_merge_lawfully :
    MergesLawfully FormRules.Same FormRules.MergesTo FormRules.merge ∧
    MergesLawfully PersonRules.Same PersonRules.MergesTo PersonRules.merge ∧
    (∀ first later merged : FormRules, FormRules.MergesTo first later merged →
      FormRules.FirstBefore first later merged ∧
      ((∀ person, later.persons.find? person = none) → merged.Same first)) ∧
    ∀ first later merged : PersonRules,
      PersonRules.MergesTo first later merged →
      PersonRules.FirstBefore first later merged ∧
      ((∀ quantity, later.quantities.find? quantity = none) →
        merged.Same first) := by
  refine ⟨?_, ?_, ?_, ?_⟩
  · exact mergesLawfully_of_alike FormRules.mergesTo_merge
      FormRules.same_of_alike
  · exact mergesLawfully_of_alike PersonRules.mergesTo_merge
      PersonRules.same_of_alike
  · intro first later merged merges
    have before := FormRules.firstBefore_of_mergesTo first later merged merges
    exact ⟨before, before.same_first⟩
  · intro first later merged merges
    have before := PersonRules.firstBefore_of_mergesTo first later merged merges
    exact ⟨before, before.same_first⟩

/-- A form with an ending for its first person. -/
def formWithFirstPerson : FormRules where
  modifiers := .unset
  persons :=
    .put PersonRules.merge .empty "1"
      ⟨false, { append := some "e" },
        .put QuantityRules.merge .empty "sg" ⟨false, .unset⟩⟩

/-- The same form again, with its first person ignored and two
further persons. -/
def formDeclaredAgain : FormRules where
  modifiers := { removed := some 2 }
  persons :=
    ((Keyed.empty.put PersonRules.merge "1"
        ⟨true, .unset,
          .put QuantityRules.merge .empty "pl" ⟨false,
            { append := some "ons" }⟩⟩).put
      PersonRules.merge "2" ⟨false, { append := some "es" }, .empty⟩).put
      PersonRules.merge "3" ⟨false, .unset, .empty⟩

/-- What the two come to if the persons of the later one are taken from the last
to the first. -/
def formMergedBackwards : FormRules where
  modifiers := .unset
  persons :=
    formWithFirstPerson.persons.putAll PersonRules.merge
      formDeclaredAgain.persons.entries.reverse

/-- Taken backwards, the persons are kept in another order, but the rules
are the same.  So are the rules after modifiers without any persons were
declared as well. -/
theorem repeated_declarations_merge_lawfully_backwards :
    FormRules.MergesTo formWithFirstPerson formDeclaredAgain
      formMergedBackwards ∧
    formMergedBackwards.persons.entries.map Prod.fst = ["1", "3", "2"] ∧
    (formWithFirstPerson.merge formDeclaredAgain).persons.entries.map Prod.fst =
      ["1", "2", "3"] ∧
    formMergedBackwards.Same (formWithFirstPerson.merge formDeclaredAgain) ∧
    FormRules.FirstBefore formWithFirstPerson formDeclaredAgain
      formMergedBackwards ∧
    (formMergedBackwards.merge ⟨{ prepend := some "se " }, .empty⟩).Same
      formMergedBackwards := by
  have backwards :
      FormRules.MergesTo formWithFirstPerson formDeclaredAgain
        formMergedBackwards :=
    ⟨rfl, _, List.reverse_perm _,
      Keyed.putsAllTo_putAll PersonRules.mergesTo_merge _ _⟩
  have laws := repeated_declarations_merge_lawfully
  have forwards := laws.1.merge_mergesTo formWithFirstPerson formDeclaredAgain
  have more :=
    laws.1.merge_mergesTo formMergedBackwards
      ⟨{ prepend := some "se " }, .empty⟩
  refine ⟨backwards, rfl, rfl, laws.1.anyOrder backwards forwards, ?_, ?_⟩
  · exact (laws.2.2.1 _ _ _ backwards).1
  · exact (laws.2.2.1 _ _ _ more).2 fun person => Keyed.find?_empty person

end Inflection.Rules
