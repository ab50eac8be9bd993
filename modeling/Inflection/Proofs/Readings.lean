import Inflection.Proofs.DocumentOrder

/-!
# Readings that succeed alike

Two readings succeed alike if both fail, or both succeed and come to related
things.  Why they fail is left open, since readings of the same things in
another order may come to another defect first.
-/

namespace Inflection.Rules

/-- Tells that two results are both failures, or both successes with
related values. -/
inductive SucceedAlike {Failure Left Right : Type} (Rel : Left → Right → Prop) :
    Except Failure Left → Except Failure Right → Prop where
  | success {left : Left} {right : Right} (related : Rel left right) :
    SucceedAlike Rel (.ok left) (.ok right)
  | failure (left right : Failure) :
      SucceedAlike Rel (.error left) (.error right)

section

variable
    {Failure Left Right Left' Right' : Type}
    {Rel : Left → Right → Prop}
    {Rel' : Left' → Right' → Prop}
    {left : Except Failure Left}
    {right : Except Failure Right}

theorem succeedAlike_iff :
    SucceedAlike Rel left right ↔
      ((∃ value, left = .ok value) ↔ ∃ value, right = .ok value) ∧
      ∀ value value', left = .ok value → right = .ok value' →
      Rel value value' := by
  constructor
  · rintro (related | ⟨failure, failure'⟩)
    · simpa using related
    · simp
  · rintro ⟨alike, each⟩
    cases left with
    | error failure =>
      cases right with
      | error failure' => exact .failure failure failure'
      | ok value' => simp at alike
    | ok value =>
      cases right with
      | error failure' => simp at alike
      | ok value' => exact .success (each value value' rfl rfl)

theorem SucceedAlike.bind
    (alike : SucceedAlike Rel left right)
    {next : Left → Except Failure Left'}
    {next' : Right → Except Failure Right'}
    (onward : ∀ value value',
      Rel value value' → SucceedAlike Rel' (next value) (next' value')) :
    SucceedAlike Rel' (left >>= next) (right >>= next') := by
  cases alike with
  | success related => exact onward _ _ related
  | failure failure failure' => exact .failure failure failure'

theorem SucceedAlike.map
    (alike : SucceedAlike Rel left right)
    {change : Left → Left'}
    {change' : Right → Right'}
    (each :
      ∀ value value', Rel value value' →
      Rel' (change value) (change' value')) :
    SucceedAlike Rel' (left.map change) (right.map change') := by
  cases alike with
  | success related => exact .success (each _ _ related)
  | failure failure failure' => exact .failure failure failure'

end

/-! ## Changed items -/

section

variable
    {Item Item' Result Result' : Type}
    {Changes : Item → Item' → Prop}
    {Rel : Result → Result' → Prop}
    {items : List Item}
    {items' : List Item'}

/-- Items that are changed one by one, and read as something before and after,
are read as related things. -/
theorem forall₂_of_reads
    {Reads : Item → Result → Prop}
    {Reads' : Item' → Result' → Prop}
    (each : ∀ item item' result result',
      Changes item item' → Reads item result →
      Reads' item' result' → Rel result result')
    (changed : List.Forall₂ Changes items items')
    {results : List Result}
    (areRead : List.Forall₂ Reads items results)
    {results' : List Result'}
    (areRead' : List.Forall₂ Reads' items' results') :
    List.Forall₂ Rel results results' := by
  induction changed generalizing results results' with
  | nil =>
    cases areRead
    cases areRead'
    exact .nil
  | cons change changes ih =>
    cases areRead with
    | cons isRead others =>
      cases areRead' with
      | cons isRead' others' =>
        exact .cons (each _ _ _ _ change isRead isRead') (ih others others')

theorem forall_mem_iff_of_forall₂
    {Holds : Item → Prop}
    {Holds' : Item' → Prop}
    (each : ∀ item item', Changes item item' → (Holds item ↔ Holds' item'))
    (changed : List.Forall₂ Changes items items') :
    (∀ item ∈ items, Holds item) ↔ ∀ item' ∈ items', Holds' item' := by
  induction changed with
  | nil => simp
  | cons change changes ih =>
    rw [List.forall_mem_cons, List.forall_mem_cons, ih, each _ _ change]

/-- Items are read exactly if they are read in another order and changed, as
long as no change makes a difference to that. -/
theorem exists_mapM_iff_of_perm
    {Failure : Type}
    {read : Item → Except Failure Result}
    {read' : Item' → Except Failure Result'}
    (each :
      ∀ item item', Changes item item' →
      SucceedAlike Rel (read item) (read' item'))
    {reordered : List Item}
    (perm : reordered.Perm items)
    (changed : List.Forall₂ Changes reordered items') :
    (∃ results, items.mapM read = .ok results) ↔
      ∃ results, items'.mapM read' = .ok results := by
  rw [exists_mapM_eq_ok_iff, exists_mapM_eq_ok_iff]
  simp only [← perm.mem_iff]
  apply forall_mem_iff_of_forall₂ _ changed
  intro item item' change
  exact (succeedAlike_iff.mp (each item item' change)).1

end

end Inflection.Rules
