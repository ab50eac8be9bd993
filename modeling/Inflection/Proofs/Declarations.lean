import Inflection.Rules.Entry

/-!
# Repeated declarations

A level that is declared more than once is read declaration by declaration, each
combined with those before it.  Most of what a level says is said by its first
declaration that says it; then the level says what a search through its
declarations finds first, and this goes on into the levels beneath.

When a level is combined with an earlier one, the levels beneath it are put to
those of the earlier one by one, in the order in which they are kept.  That
order may be any: every name comes to the same value.  So combining is described
here as a relation, which leaves the order open at each level, and the function
is one of its cases.
-/

namespace Inflection.Rules

/-! ## What is said first -/

/-- What is found first is found in the first item, or else in the rest. -/
theorem findSome?_cons_eq_or
    {Item Said : Type}
    (says? : Item → Option Said)
    (item : Item)
    (rest : List Item) :
    (item :: rest).findSome? says? =
      (says? item).or (rest.findSome? says?) := by
  rw [List.findSome?_cons]
  cases says? item with
  | none => rfl
  | some said => rfl

/-- What the first of some named values says that has this name and
says anything. -/
def saidUnder {Value Said : Type}
    (name : String)
    (says? : Value → Option Said)
    (entries : List (String × Value)) :
    Option Said :=
  entries.findSome? fun entry => if entry.1 = name then says? entry.2 else none

section

variable
    {Value Said : Type}
    {says? : Value → Option Said}

@[simp]
theorem saidUnder_nil (name : String) (says? : Value → Option Said) :
    saidUnder name says? [] = none :=
  rfl

theorem saidUnder_cons
    (name : String)
    (says? : Value → Option Said)
    (entry : String × Value)
    (rest : List (String × Value)) :
    saidUnder name says? (entry :: rest) =
      (if entry.1 = name then says? entry.2
        else none).or (saidUnder name says? rest) :=
  findSome?_cons_eq_or _ entry rest

theorem saidUnder_append
    (name : String)
    (says? : Value → Option Said)
    (earlier later : List (String × Value)) :
    saidUnder name says? (earlier ++ later) =
      (saidUnder name says? earlier).or (saidUnder name says? later) :=
  List.findSome?_append

theorem saidUnder_of_not_mem
    {name : String}
    {entries : List (String × Value)}
    (absent : name ∉ entries.map Prod.fst) :
    saidUnder name says? entries = none := by
  refine List.findSome?_eq_none_iff.mpr ?_
  intro entry member
  rw [if_neg]
  rintro rfl
  exact absent (List.mem_map_of_mem member)

end

/-- The order of values under distinct names does not matter for what is said
under one of them. -/
theorem saidUnder_of_perm
    {Value Said : Type}
    {entries order : List (String × Value)}
    (perm : order.Perm entries)
    (distinct : (entries.map Prod.fst).Nodup)
    (name : String)
    (says? : Value → Option Said) :
    saidUnder name says? order = saidUnder name says? entries := by
  induction perm with
  | nil => rfl
  | cons entry perm ih =>
    rw [List.map_cons, List.nodup_cons] at distinct
    rw [saidUnder_cons, saidUnder_cons, ih distinct.2]
  | swap first second rest =>
    rw [List.map_cons, List.map_cons, List.nodup_cons] at distinct
    simp only [saidUnder_cons]
    -- Only one of the two has the name, so at most one of them says
    -- anything under it.
    by_cases isFirst : first.1 = name
    · have notSecond : ¬ second.1 = name := by
        intro isSecond
        exact distinct.1 (List.mem_cons.mpr
          (.inl (isFirst.trans isSecond.symm)))
      rw [if_neg notSecond, Option.none_or, Option.none_or]
    · rw [if_neg isFirst, Option.none_or, Option.none_or]
  | trans left right leftIh rightIh =>
    have distinctMiddle := (right.map Prod.fst).nodup_iff.mpr distinct
    rw [leftIh distinctMiddle, rightIh distinct]

/-! ## Putting in any order -/

/-- Tells that wherever two values are combined, the earlier one has the say,
and the later one only if the earlier one says nothing. -/
def FirstAlwaysWins {Value Said : Type}
    (Combines : Value → Value → Value → Prop)
    (says? : Value → Option Said) :
    Prop :=
  ∀ earlier later combined, Combines earlier later combined →
    says? combined = (says? earlier).or (says? later)

namespace Keyed

section

variable {Value : Type}

/-- Tells what putting a value under a name may come to, where only how it is
combined with an earlier one is laid down. -/
def PutsTo
    (Combines : Value → Value → Value → Prop)
    (keyed : Keyed Value)
    (name : String)
    (value : Value)
    (result : Keyed Value) :
    Prop :=
  ∃ combine : Value → Value → Value,
    (∀ earlier, keyed.find? name = some earlier →
      Combines earlier value (combine earlier value)) ∧
    result = keyed.put combine name value

/-- Tells what putting some values under their names may come to, one
after the other. -/
inductive PutsAllTo (Combines : Value → Value → Value → Prop) :
    Keyed Value → List (String × Value) → Keyed Value → Prop where
  | nil (keyed : Keyed Value) : PutsAllTo Combines keyed [] keyed
  | cons
      {keyed next result : Keyed Value}
      {entry : String × Value}
      {rest : List (String × Value)}
      (first : keyed.PutsTo Combines entry.1 entry.2 next)
      (others : PutsAllTo Combines next rest result) :
      PutsAllTo Combines keyed (entry :: rest) result

/-- Tells what merging may come to, with the values of the second keyed list
taken in any order. -/
def MergesTo
    (Combines : Value → Value → Value → Prop)
    (first later merged : Keyed Value) :
    Prop :=
  ∃ order, order.Perm later.entries ∧ first.PutsAllTo Combines order merged

/-- Puts named values into a keyed list, one after the other. -/
def putAll
    (combine : Value → Value → Value)
    (first : Keyed Value)
    (entries : List (String × Value)) :
    Keyed Value :=
  entries.foldl (fun levels entry => levels.put combine entry.1 entry.2) first

end

section

variable
    {Value Said : Type}
    {combine : Value → Value → Value}
    {Combines : Value → Value → Value → Prop}
    {says? : Value → Option Said}

theorem putsAllTo_putAll
    (combines : ∀ earlier later, Combines earlier later (combine earlier later))
    (first : Keyed Value)
    (entries : List (String × Value)) :
    first.PutsAllTo Combines entries (first.putAll combine entries) := by
  induction entries generalizing first with
  | nil => exact .nil first
  | cons entry rest ih =>
    refine .cons ⟨combine, fun earlier _ => combines earlier entry.2, rfl⟩ ?_
    exact ih (first.put combine entry.1 entry.2)

/-- Merging takes the values in the order in which they are kept. -/
theorem mergesTo_merge
    (combines : ∀ earlier later, Combines earlier later (combine earlier later))
    (first later : Keyed Value) :
    MergesTo Combines first later (first.merge combine later) :=
  ⟨later.entries, .refl _, putsAllTo_putAll combines first later.entries⟩

/-- What a keyed list says under a name, it says by the value that is there. -/
theorem bind_find?_eq_saidUnder
    (keyed : Keyed Value)
    (name : String)
    (says? : Value → Option Said) :
    (keyed.find? name).bind says? = saidUnder name says? keyed.entries := by
  rcases keyed with ⟨entries, distinct⟩
  show (valueIn name entries).bind says? = saidUnder name says? entries
  induction entries with
  | nil => rfl
  | cons entry rest ih =>
    rw [List.map_cons, List.nodup_cons] at distinct
    rw [saidUnder_cons]
    by_cases here : entry.1 = name
    · have nowhereElse : saidUnder name says? rest = none :=
        saidUnder_of_not_mem (here ▸ distinct.1)
      simp [valueIn, here, nowhereElse]
    · simp [valueIn, here, ih distinct.2]

/-- Putting a value adds what it says under its name, behind what
was said there. -/
theorem bind_find?_put
    {keyed : Keyed Value}
    {name : String}
    {value : Value}
    (wins :
      ∀ earlier, keyed.find? name = some earlier →
        says? (combine earlier value) = (says? earlier).or (says? value))
    (wanted : String) :
    ((keyed.put combine name value).find? wanted).bind says? =
      ((keyed.find? wanted).bind says?).or (if name = wanted then says? value
        else none) := by
  rw [find?_put]
  by_cases same : name = wanted
  · subst same
    cases there : keyed.find? name with
    | none => simp
    | some earlier => simp [wins earlier there]
  · have other : ¬ wanted = name := fun equal => same equal.symm
    simp [same, other]

/-- After values were put, the first that says anything under a name
has the say. -/
theorem PutsAllTo.bind_find?
    (wins : FirstAlwaysWins Combines says?)
    {first result : Keyed Value}
    {entries : List (String × Value)}
    (puts : first.PutsAllTo Combines entries result)
    (name : String) :
    (result.find? name).bind says? =
      ((first.find? name).bind says?).or (saidUnder name says? entries) := by
  induction puts with
  | nil keyed => simp
  | @cons keyed next result entry rest single others ih =>
    rcases single with ⟨combine, combines, rfl⟩
    rw [ih, bind_find?_put fun earlier there =>
      wins _ _ _ (combines earlier there), saidUnder_cons, Option.or_assoc]

/-- Where the earlier value has the say among values, so has the earlier keyed
list, in whatever order the later one is taken. -/
theorem firstAlwaysWins_mergesTo
    (wins : FirstAlwaysWins Combines says?)
    (name : String) :
    FirstAlwaysWins (MergesTo Combines) fun keyed =>
      (keyed.find? name).bind says? := by
  rintro earlier later merged ⟨order, perm, puts⟩
  show (merged.find? name).bind says? =
    ((earlier.find? name).bind says?).or ((later.find? name).bind says?)
  rw [puts.bind_find? wins, saidUnder_of_perm perm later.distinct,
    bind_find?_eq_saidUnder later]

end

end Keyed

/-! ## The levels of an entry -/

/-- What is declared of a person itself: its mark and its modifiers. -/
def PersonRules.own (rules : PersonRules) : Bool × Modifiers :=
  (rules.ignored, rules.modifiers)

/-- A quantity that is declared again keeps its first declaration. -/
def QuantityRules.MergesTo (first _later merged : QuantityRules) : Prop :=
  merged = first

/-- A person that is declared again keeps its own, and its quantities are merged
in any order. -/
def PersonRules.MergesTo (first later merged : PersonRules) : Prop :=
  merged.own = first.own ∧
    Keyed.MergesTo QuantityRules.MergesTo first.quantities later.quantities
      merged.quantities

/-- A form that is declared again keeps its modifiers, and its persons are
merged in any order. -/
def FormRules.MergesTo (first later merged : FormRules) : Prop :=
  merged.modifiers = first.modifiers ∧
    Keyed.MergesTo PersonRules.MergesTo first.persons later.persons
      merged.persons

theorem QuantityRules.mergesTo_merge (first later : QuantityRules) :
    QuantityRules.MergesTo first later (first.merge later) :=
  rfl

theorem PersonRules.mergesTo_merge (first later : PersonRules) :
    PersonRules.MergesTo first later (first.merge later) :=
  ⟨rfl,
    Keyed.mergesTo_merge QuantityRules.mergesTo_merge first.quantities
      later.quantities⟩

theorem FormRules.mergesTo_merge (first later : FormRules) :
    FormRules.MergesTo first later (first.merge later) :=
  ⟨rfl,
    Keyed.mergesTo_merge PersonRules.mergesTo_merge first.persons later.persons⟩

/-- The first declaration of a quantity has the say altogether. -/
theorem firstAlwaysWins_quantity :
    FirstAlwaysWins QuantityRules.MergesTo some := by
  rintro first later merged rfl
  rfl

/-- The first declaration of a person has the say on its mark and
its modifiers. -/
theorem firstAlwaysWins_personOwn :
    FirstAlwaysWins PersonRules.MergesTo fun rules => some rules.own := by
  rintro first later merged ⟨sameOwn, -⟩
  show some merged.own = _
  rw [sameOwn]
  rfl

/-- The first declaration of a quantity has the say, wherever it is among those
of its person. -/
theorem firstAlwaysWins_quantityOfPerson (quantity : String) :
    FirstAlwaysWins PersonRules.MergesTo fun rules =>
      rules.quantities.find? quantity := by
  rintro first later merged ⟨-, quantities⟩
  have said :=
    Keyed.firstAlwaysWins_mergesTo firstAlwaysWins_quantity quantity
      _ _ _ quantities
  simp only [Option.bind_fun_some] at said
  exact said

/-- The first declaration of a form has the say on its modifiers. -/
theorem firstAlwaysWins_formModifiers :
    FirstAlwaysWins FormRules.MergesTo fun rules => some rules.modifiers := by
  rintro first later merged ⟨sameModifiers, -⟩
  show some merged.modifiers = _
  rw [sameModifiers]
  rfl

/-- What the first declaration of a person has the say on, the first one among
those of its form has. -/
theorem firstAlwaysWins_personOfForm
    {Said : Type}
    {says? : PersonRules → Option Said}
    (wins : FirstAlwaysWins PersonRules.MergesTo says?)
    (person : String) :
    FirstAlwaysWins FormRules.MergesTo fun rules =>
      (rules.persons.find? person).bind says? := by
  rintro first later merged ⟨-, persons⟩
  exact Keyed.firstAlwaysWins_mergesTo wins person _ _ _ persons

/-! ## Putting in the order of declaration -/

/-- Tells that where two values are combined, the earlier one has the say, and
the later one only if the earlier one says nothing. -/
def FirstWins {Value Said : Type}
    (combine : Value → Value → Value)
    (says? : Value → Option Said) :
    Prop :=
  ∀ earlier later, says? (combine earlier later) =
    (says? earlier).or (says? later)

/-- What the first declaration of a form has the say on in any order, it has the
say on in this one. -/
theorem firstWins_form
    {Said : Type}
    {says? : FormRules → Option Said}
    (wins : FirstAlwaysWins FormRules.MergesTo says?) :
    FirstWins FormRules.merge says? :=
  fun earlier later =>
    wins earlier later _ (FormRules.mergesTo_merge earlier later)

/-- After values were put, the first that says anything under a name
has the say. -/
theorem Keyed.bind_find?_putAll
    {Value Said : Type}
    {combine : Value → Value → Value}
    {says? : Value → Option Said}
    (wins : FirstWins combine says?)
    (first : Keyed Value)
    (entries : List (String × Value))
    (name : String) :
    ((first.putAll combine entries).find? name).bind says? =
      ((first.find? name).bind says?).or (saidUnder name says? entries) := by
  have puts :
      first.PutsAllTo (fun earlier later combined =>
        combined = combine earlier later) entries
        (first.putAll combine entries) := by
    refine putsAllTo_putAll ?_ first entries
    intro earlier later
    rfl
  refine puts.bind_find? ?_ name
  rintro earlier later combined rfl
  exact wins earlier later

end Inflection.Rules
