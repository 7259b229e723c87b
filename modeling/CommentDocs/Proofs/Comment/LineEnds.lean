import CommentDocs.Comment.Reading

/-!
# Comments with other line ends

A line may end in a newline or in a carriage return and a newline, and the last line may end in
either or in nothing. The newline at the end of the text goes first, so that a carriage return in
front of it is at the end of the last line and goes with those of the other lines. A comment is read
from its lines, so it says the same with all of these line ends, also where they are mixed.
-/

namespace CommentDocs.Comment

open Text

/-- A text with a carriage return in front of every newline. -/
def withReturns (text : Text) : Text :=
  text.flatMap fun c => if c = '\n' then ['\r', '\n'] else [c]

/-- The second text has a carriage return in front of some of the newlines of the first. -/
inductive Respelled : Text → Text → Prop where
  | nil : Respelled [] []
  | char {c : Char} {text other : Text} (inner : c ≠ '\n') (rest : Respelled text other) :
      Respelled (c :: text) (c :: other)
  | newline {text other : Text} (rest : Respelled text other) :
      Respelled ('\n' :: text) ('\n' :: other)
  | carriage {text other : Text} (rest : Respelled text other) :
      Respelled ('\n' :: text) ('\r' :: '\n' :: other)

variable {text other more others : Text}

namespace Respelled

theorem refl (text : Text) : Respelled text text := by
  induction text with
  | nil => exact .nil
  | cons c text ih =>
    by_cases newline : c = '\n'
    · subst newline
      exact .newline ih
    · exact .char newline ih

theorem append (first : Respelled text other) (second : Respelled more others) :
    Respelled (text ++ more) (other ++ others) := by
  induction first with
  | nil => exact second
  | char inner _ ih => exact .char inner ih
  | newline _ ih => exact .newline ih
  | carriage _ ih => exact .carriage ih

theorem withReturns (text : Text) : Respelled text (withReturns text) := by
  induction text with
  | nil => exact .nil
  | cons c text ih =>
    rw [Comment.withReturns, List.flatMap_cons]
    split
    · rename_i newline
      subst newline
      exact .carriage ih
    · rename_i inner
      exact .char inner ih

theorem eq_nil_iff (spelled : Respelled text other) : text = [] ↔ other = [] := by
  cases spelled <;> simp

end Respelled

/-- A character that ends no line is added to the first one. -/
theorem textLines_char {c : Char} (newline : c ≠ '\n') (carriage : c ≠ '\r') (text : Text) :
    textLines (c :: text) = (textLines text).modifyHead (c :: ·) := by
  have free : '\n' ∉ [c] := fun mem => newline (List.mem_singleton.mp mem).symm
  have plain : '\r' ∉ [c] := fun mem => carriage (List.mem_singleton.mp mem).symm
  obtain ⟨piece, pieces, found, whole⟩ := splitOn_append_left free (dropSuffix ['\n'] text)
  change textLines ([c] ++ text) = _
  rw [textLines, dropSuffix_singleton_append free, whole, List.map_cons,
    dropSuffix_singleton_append plain, textLines, found]
  rfl

theorem textLines_newline (nonempty : text ≠ []) :
    textLines ('\n' :: text) = [] :: textLines text := by
  change textLines (['\n'] ++ text) = _
  rw [textLines, dropSuffix_append_of_ne_nil _ nonempty]
  rfl

theorem textLines_carriage (nonempty : text ≠ []) :
    textLines ('\r' :: '\n' :: text) = [] :: textLines text := by
  change textLines (['\r', '\n'] ++ text) = _
  rw [textLines, dropSuffix_append_of_ne_nil _ nonempty]
  rfl

/-- The lines do not show how they ended. -/
theorem textLines_respelled (spelled : Respelled text other) (plain : '\r' ∉ text) :
    textLines other = textLines text := by
  induction spelled with
  | nil => rfl
  | @char c text other inner spelled ih =>
    rw [List.mem_cons, not_or] at plain
    have carriage : c ≠ '\r' := Ne.symm plain.1
    rw [textLines_char inner carriage, textLines_char inner carriage, ih plain.2]
  | @newline text other spelled ih =>
    have same := ih (mt (List.mem_cons_of_mem _) plain)
    by_cases empty : text = []
    · rw [empty, spelled.eq_nil_iff.mp empty]
    · rw [textLines_newline empty, textLines_newline (mt spelled.eq_nil_iff.mpr empty), same]
  | @carriage text other spelled ih =>
    have same := ih (mt (List.mem_cons_of_mem _) plain)
    by_cases empty : text = []
    · rw [empty, spelled.eq_nil_iff.mp empty]
      rfl
    · rw [textLines_newline empty, textLines_carriage (mt spelled.eq_nil_iff.mpr empty), same]

/-- A newline at the end of the text ends the last line. -/
theorem textLines_concat (unended : ¬ ['\n'] <:+ text) :
    textLines (text ++ ['\n']) = textLines text := by
  rw [textLines, textLines, dropSuffix_append, dropSuffix_of_not_suffix unended]

theorem read_eq_of_textLines (same : textLines other = textLines text) (onlyKey : Option Text) :
    read other onlyKey = read text onlyKey := by
  rw [read, read, Block.ofText?, Block.ofText?, same]

theorem read_respelled (spelled : Respelled text other) (plain : '\r' ∉ text)
    (onlyKey : Option Text) : read other onlyKey = read text onlyKey :=
  read_eq_of_textLines (textLines_respelled spelled plain) onlyKey

/-- A comment says the same with carriage returns in front of all of its newlines or of some, and
with a line end of either kind behind its last line, whether the reading is restricted to a key or
not. -/
theorem read_lineEnds (text : Text) (onlyKey : Option Text) (plain : '\r' ∉ text) :
    read (withReturns text) onlyKey = read text onlyKey ∧
      (¬ ['\n'] <:+ text →
        read (text ++ ['\n']) onlyKey = read text onlyKey ∧
          read (text ++ ['\r', '\n']) onlyKey = read text onlyKey) ∧
      ∀ other, Respelled text other → read other onlyKey = read text onlyKey := by
  refine ⟨read_respelled (.withReturns text) plain onlyKey, ?_,
    fun other spelled => read_respelled spelled plain onlyKey⟩
  intro unended
  have ended : '\r' ∉ text ++ ['\n'] := by simpa using plain
  have last : read (text ++ ['\n']) onlyKey = read text onlyKey :=
    read_eq_of_textLines (textLines_concat unended) onlyKey
  refine ⟨last, ?_⟩
  calc
    read (text ++ ['\r', '\n']) onlyKey
    _ = read (text ++ ['\n']) onlyKey :=
      read_respelled (.append (.refl text) (.carriage .nil)) ended onlyKey
    _ = read text onlyKey := last

/-- A key with a type, an empty line, and a last line of blanks. -/
theorem read_lineEnds_typed :
    let start := " a: [t] N?\n".toList
    let rest := "\tb\n summary: S\n ".toList
    let text := start ++ '\n' :: rest
    ('\r' ∉ text ∧ ¬ ['\n'] <:+ text ∧
        withReturns text = " a: [t] N?\r\n\r\n\tb\r\n summary: S\r\n ".toList) ∧
      read (withReturns text) none = read text none ∧
      read (text ++ ['\r', '\n']) (some "a".toList) = read text (some "a".toList) ∧
      (Respelled text (start ++ '\r' :: '\n' :: rest) ∧
        read (start ++ '\r' :: '\n' :: rest) none = read text none) ∧
      read text none =
        { summary := "S\n".toList
          entries := ⟨[("a".toList,
            { type := "N?".toList, summary := "b".toList, tags := ["t".toList],
              isOptional := true })]⟩ } := by
  intro start rest text
  have plain : '\r' ∉ text := by decide
  have unended : ¬ ['\n'] <:+ text := by decide
  have mixed : Respelled text (start ++ '\r' :: '\n' :: rest) :=
    .append (.refl start) (.carriage (.refl rest))
  exact ⟨⟨plain, unended, by decide⟩, (read_lineEnds text none plain).1,
    ((read_lineEnds text (some "a".toList) plain).2.1 unended).2,
    ⟨mixed, (read_lineEnds text none plain).2.2 _ mixed⟩, by decide +kernel⟩

end CommentDocs.Comment
