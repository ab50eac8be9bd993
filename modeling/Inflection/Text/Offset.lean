/-!
# Places in a text by bytes

A text is kept as bytes, and a character takes from one to four of them.  Each
character starts at a byte. A text can be cut at a byte only where a character
starts, or at its end; within a character there is no place to cut.
-/

namespace Inflection.Text

/-- Some characters, each with the byte at which it starts, if the first starts
at `offset`. -/
def startsFrom (offset : Nat) : List Char → List (Nat × Char)
  | [] => []
  | char :: rest => (offset, char) :: startsFrom (offset + char.utf8Size) rest

/-- The characters of a text, each with the byte at which it starts. -/
def starts (text : String) : List (Nat × Char) :=
  startsFrom 0 text.toList

/-- The parts of a text before a byte and from it on, unless the byte is within
a character or beyond the end. -/
def cutAt? (text : String) (offset : Nat) : Option (String × String) :=
  if between : String.Pos.Raw.IsValid text ⟨offset⟩ then
    let place := text.pos ⟨offset⟩ between
    some ((text.sliceTo place).copy, (text.sliceFrom place).copy)
  else
    none

@[simp]
theorem map_snd_startsFrom (offset : Nat) (chars : List Char) :
    (startsFrom offset chars).map Prod.snd = chars := by
  induction chars generalizing offset with
  | nil => rfl
  | cons char rest ih => simp [startsFrom, ih]

@[simp]
theorem length_startsFrom (offset : Nat) (chars : List Char) :
    (startsFrom offset chars).length = chars.length := by
  rw [← List.length_map Prod.snd, map_snd_startsFrom]

/-- Characters start behind the bytes of those before them. -/
theorem startsFrom_append (offset : Nat) (first rest : List Char) :
    startsFrom offset (first ++ rest) =
      startsFrom offset first ++
        startsFrom (offset + (String.ofList first).utf8ByteSize) rest := by
  induction first generalizing offset with
  | nil => simp [startsFrom]
  | cons char first ih =>
    have bytes :
        (String.ofList (char :: first)).utf8ByteSize =
          char.utf8Size + (String.ofList first).utf8ByteSize := by
      rw [← List.singleton_append, String.ofList_append,
        String.utf8ByteSize_append, ← String.singleton_eq_ofList,
        String.utf8ByteSize_singleton]
    simp only [List.cons_append, startsFrom, ih, bytes, Nat.add_assoc]

/-- A text is cut in two at a byte exactly if the first part ends there. -/
theorem cutAt?_eq_some_iff {text first rest : String} {offset : Nat} :
    cutAt? text offset = some (first, rest) ↔
      text = first ++ rest ∧ offset = first.utf8ByteSize := by
  unfold cutAt?
  constructor
  · intro isCut
    split at isCut
    · rename_i between
      have splits := (text.pos ⟨offset⟩ between).splits
      cases isCut
      exact ⟨splits.eq_append,
        congrArg String.Pos.Raw.byteIdx splits.offset_eq_rawEndPos⟩
    · cases isCut
  · rintro ⟨rfl, rfl⟩
    have between :
        String.Pos.Raw.IsValid (first ++ rest) ⟨first.utf8ByteSize⟩ :=
      String.Pos.Raw.isValid_rawEndPos.append_right rest
    have splits :
        ((first ++ rest).pos ⟨first.utf8ByteSize⟩ between).Splits first rest :=
      String.Pos.splits_append_rawEndPos
    simp only [dif_pos between, splits.copy_sliceTo_eq,
      splits.copy_sliceFrom_eq]

end Inflection.Text
