import CommentDocs.Syntax.Bytes

/-!
# Bytes between characters

A byte position that a parser reports for a well-encoded source stands between two
characters. On such positions the passage from bytes to characters loses nothing: the
characters before the position take exactly its bytes (`byteSize_take_charIndex`), so the
order of positions is kept, strictly where they differ.
-/

namespace CommentDocs.Syntax

/-- A byte position with whole characters before it; both ends of the text are such
positions. -/
def IsBoundary (source : Text) (byte : Nat) : Prop :=
  ∃ before after, source = before ++ after ∧ byteSize before = byte

/-- The character after the first characters of a text is found by their bytes. -/
theorem charIndex_byteSize (before after : Text) :
    charIndex (before ++ after) (byteSize before) = before.length := by
  induction before with
  | nil =>
    cases after with
    | nil => rfl
    | cons c rest =>
      have outside : ¬ c.utf8Size ≤ 0 := Nat.not_le.mpr c.utf8Size_pos
      simp only [List.nil_append, charIndex, byteSize, if_neg outside, List.length_nil]
  | cons c before ih =>
    have inside : c.utf8Size ≤ byteSize (c :: before) := Nat.le_add_right _ _
    have rest : byteSize (c :: before) - c.utf8Size = byteSize before := Nat.add_sub_cancel_left _ _
    simp only [List.cons_append, charIndex, if_pos inside, rest, ih, List.length_cons]

theorem charIndex_mono (source : Text) {byte later : Nat} (le : byte ≤ later) :
    charIndex source byte ≤ charIndex source later := by
  induction source generalizing byte later with
  | nil => exact Nat.le_refl _
  | cons c rest ih =>
    unfold charIndex
    split
    · rename_i inside
      rw [if_pos (Nat.le_trans inside le)]
      exact Nat.succ_le_succ (ih (Nat.sub_le_sub_right le _))
    · exact Nat.zero_le _

variable {source : Text} {byte later : Nat}

/-- The characters before a boundary take as many bytes as stand before it. -/
theorem byteSize_take_charIndex (boundary : IsBoundary source byte) :
    byteSize (source.take (charIndex source byte)) = byte := by
  obtain ⟨before, after, rfl, rfl⟩ := boundary
  rw [charIndex_byteSize, List.take_left]

theorem isBoundary_iff :
    IsBoundary source byte ↔ byteSize (source.take (charIndex source byte)) = byte :=
  ⟨byteSize_take_charIndex, fun same => ⟨_, _, (List.take_append_drop _ source).symm, same⟩⟩

instance : Decidable (IsBoundary source byte) :=
  decidable_of_iff _ isBoundary_iff.symm

/-- Different boundaries stand before different characters. -/
theorem charIndex_lt (boundary : IsBoundary source byte) (next : IsBoundary source later)
    (lt : byte < later) : charIndex source byte < charIndex source later := by
  refine Nat.lt_of_le_of_ne (charIndex_mono source (Nat.le_of_lt lt)) fun same => ?_
  have bytes := byteSize_take_charIndex next
  rw [← same, byteSize_take_charIndex boundary] at bytes
  exact Nat.ne_of_lt lt bytes

end CommentDocs.Syntax
