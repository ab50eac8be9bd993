/-!
# Runs of characters

A run is a stretch of characters of one kind at the start of a text.  It goes on
as long as it can: what follows it starts with a character that is not of the
kind, if anything follows.
-/

namespace Inflection.Text

/-- Tells that a text starts with a run of one kind, and what
follows the run. -/
structure IsRun (kind : Char → Bool) (chars run rest : List Char) : Prop where
  text : chars = run ++ rest
  alike : ∀ char ∈ run, kind char = true
  stops : ∀ char ∈ rest.head?, kind char = false

section

variable {kind : Char → Bool} {chars run rest : List Char}

theorem dropWhile_of_stops (stops : ∀ char ∈ rest.head?, kind char = false) :
    rest.dropWhile kind = rest := by
  cases rest with
  | nil => rfl
  | cons char rest => rw [List.dropWhile_cons_of_neg (by simp [stops char rfl])]

theorem takeWhile_of_stops (stops : ∀ char ∈ rest.head?, kind char = false) :
    rest.takeWhile kind = [] := by
  cases rest with
  | nil => rfl
  | cons char rest => rw [List.takeWhile_cons_of_neg (by simp [stops char rfl])]

/-- A text is its run followed by the rest. -/
theorem IsRun.eq_append
    {text : String}
    (isRun : IsRun kind text.toList run rest) :
    text = String.ofList run ++ String.ofList rest := by
  rw [← String.ofList_append, ← isRun.text, String.ofList_toList]

/-- A text starts with one run of each kind, which may be empty. -/
theorem isRun_iff :
    IsRun kind chars run rest ↔
      run = chars.takeWhile kind ∧ rest = chars.dropWhile kind := by
  constructor
  · rintro ⟨rfl, alike, stops⟩
    rw [List.takeWhile_append_of_pos alike, List.dropWhile_append_of_pos alike,
      takeWhile_of_stops stops, dropWhile_of_stops stops, List.append_nil]
    exact ⟨rfl, rfl⟩
  · rintro ⟨rfl, rfl⟩
    refine ⟨List.takeWhile_append_dropWhile.symm,
      List.all_eq_true.mp List.all_takeWhile, ?_⟩
    intro char isHead
    have stopped := List.head?_dropWhile_not kind chars
    rw [Option.mem_def.mp isHead] at stopped
    simpa using stopped

end

end Inflection.Text
