/-!
# Values under distinct names

A keyed list holds values under names, in the order in which the names first
came.  Putting a value under a name that is already there combines the two; how
is up to the caller.  What a keyed list says is which value each name has, and
every operation is described by that.
-/

namespace Inflection.Rules

/-- Values under distinct names. -/
structure Keyed (Value : Type) where
  entries : List (String × Value)
  distinct : (entries.map Prod.fst).Nodup

namespace Keyed

variable {Value : Type}

/-- No values. -/
def empty : Keyed Value :=
  ⟨[], List.nodup_nil⟩

/-- The value under a name in a list of named values. -/
def valueIn (name : String) : List (String × Value) → Option Value
  | [] => none
  | entry :: rest => if entry.1 = name then some entry.2 else valueIn name rest

/-- The value under a name. -/
def find? (keyed : Keyed Value) (name : String) : Option Value :=
  valueIn name keyed.entries

/-- Puts a value under a name in a list of named values. -/
def putIn
    (combine : Value → Value → Value)
    (name : String)
    (value : Value) :
    List (String × Value) → List (String × Value)
  | [] => [(name, value)]
  | entry :: rest =>
    if entry.1 = name then (name, combine entry.2 value) :: rest
    else entry :: putIn combine name value rest

/-- The names after a value was put: a new name comes last. -/
theorem names_putIn
    (combine : Value → Value → Value)
    (name : String)
    (value : Value)
    (entries : List (String × Value)) :
    (putIn combine name value entries).map Prod.fst =
      if name ∈ entries.map Prod.fst then entries.map Prod.fst
      else entries.map Prod.fst ++ [name] := by
  induction entries with
  | nil => rfl
  | cons entry rest ih =>
    by_cases same : entry.1 = name
    · simp [putIn, same]
    · have other : ¬ name = entry.1 := fun equal => same equal.symm
      simp only [putIn, if_neg same, List.map_cons, ih, List.mem_cons, other,
        false_or]
      split <;> simp

/-- Putting a value keeps the names distinct. -/
theorem distinct_putIn
    (combine : Value → Value → Value)
    (name : String)
    (value : Value)
    {entries : List (String × Value)}
    (distinct : (entries.map Prod.fst).Nodup) :
    ((putIn combine name value entries).map Prod.fst).Nodup := by
  rw [names_putIn]
  split
  · exact distinct
  · rename_i absent
    rw [List.nodup_append]
    refine ⟨distinct, by simp, ?_⟩
    intro old isOld new isNew
    rw [List.mem_singleton] at isNew
    rintro rfl
    exact absent (isNew ▸ isOld)

/-- Puts a value under a name.  If the name has a value already, the two are
combined, the earlier one first. -/
def put
    (combine : Value → Value → Value)
    (keyed : Keyed Value)
    (name : String)
    (value : Value) :
    Keyed Value :=
  ⟨putIn combine name value keyed.entries,
    distinct_putIn combine name value keyed.distinct⟩

/-- Puts all values of a second keyed list into a first. -/
def merge
    (combine : Value → Value → Value)
    (first later : Keyed Value) :
    Keyed Value :=
  later.entries.foldl
    (fun merged entry => merged.put combine entry.1 entry.2) first

@[simp]
theorem find?_empty (name : String) :
    (empty : Keyed Value).find? name = none :=
  rfl

/-- Putting a value changes what is under its name and nothing else. -/
theorem find?_put
    (combine : Value → Value → Value)
    (keyed : Keyed Value)
    (name : String)
    (value : Value)
    (wanted : String) :
    (keyed.put combine name value).find? wanted =
      if wanted = name then
        some
          (((keyed.find? name).map fun earlier => combine earlier value).getD
            value)
      else
        keyed.find? wanted := by
  show valueIn wanted (putIn combine name value keyed.entries) = _
  unfold find?
  induction keyed.entries with
  | nil =>
    by_cases same : wanted = name
    · simp [putIn, valueIn, same]
    · have other : ¬ name = wanted := fun equal => same equal.symm
      simp [putIn, valueIn, same, other]
  | cons entry rest ih =>
    by_cases here : entry.1 = name
    · by_cases same : wanted = name
      · simp [putIn, valueIn, here, same]
      · have other : ¬ name = wanted := fun equal => same equal.symm
        simp [putIn, valueIn, here, same, other]
    · by_cases found : entry.1 = wanted
      · have differs : ¬ wanted = name := found ▸ here
        simp [putIn, valueIn, found, differs]
      · simp only [putIn, if_neg here, valueIn, if_neg found, ih]

end Keyed

end Inflection.Rules
