import CommentDocs.Doc.Record
import Mathlib.Data.List.TakeWhile

/-!
# What a merge erases

A field of a record is visible when a reader would see something in it. Merging a fragment
keeps every visible field, with one exception. A type text is tested before its optional mark
is taken off, and nobody looks at what the mark leaves behind: a type that is nothing but
decoration and a mark takes the place of any other type.
-/

namespace CommentDocs

open Text

/-- A text is visible when it holds anything but decoration. -/
theorem Text.isVisible_iff (text : Text) :
    isVisible text = true ↔ ∃ c ∈ text, isDecoration c = false := by
  have trimmed : isVisible text = true ↔ text.dropWhile isDecoration ≠ [] := by
    unfold isVisible undecorated trimEnd dropWhileEnd
    cases rest : text.dropWhile isDecoration with
    | nil => simp
    | cons c rest =>
      -- what is left starts with a character that is no blank, so not all of it is trimmed
      have first := List.head?_dropWhile_not isDecoration text
      rw [rest] at first
      have plain : isDecoration c = false := by simpa using first
      have solid : isBlank c = false := (Bool.or_eq_false_iff.mp plain).1
      simp [List.dropWhile_eq_nil_iff, solid]
  rw [trimmed, ne_eq, List.dropWhile_eq_nil_iff]
  simp

/-- Whether a reader sees something in a type: in a text if it is visible, in a value always. -/
def TypeNote.isVisible : TypeNote → Bool
  | .text name => Text.isVisible name
  | note => note.isPresent

def ListField.isVisible : ListField → Bool
  | .items texts => texts ≠ []
  | .other _ => false

def RecordFields.isVisible (fields : RecordFields) : RecordField → Bool
  | .type => fields.type.isVisible
  | .summary => Text.isVisible fields.summary
  | .description => Text.isVisible fields.description
  | .tags => fields.tags.isVisible
  | .examples => fields.examples.isVisible
  | .isOptional => fields.isOptional

/-- Whether a type erases the type that it is merged into: it is there, but without its
optional mark there is nothing to see. -/
def TypeNote.Erases (note : TypeNote) : Prop :=
  ∃ name, note = .text name ∧ name ≠ [] ∧
    ∀ c ∈ TypeExpr.withoutOptionalMark name, isDecoration c = true

namespace Merge

theorem isVisible_text {old : Text} (visible : isVisible old = true) (new : Text) :
    isVisible (text old new) = true := by
  unfold text
  split
  · assumption
  · exact visible

theorem isVisible_list {old : ListField} (visible : old.isVisible = true) (new : ListField) :
    (old.merge new).isVisible = true := by
  cases old with
  | other datum => cases visible
  | items texts =>
    unfold ListField.merge
    cases new.toItems with
    | nil => exact visible
    | cons first rest => simp [ListField.isVisible, list]

theorem isVisible_flag {old : Bool} (visible : old = true) (new : Bool) : flag old new = true := by
  rw [flag, visible, Bool.true_or]

/-- A visible type stays visible unless the new one erases it. -/
theorem isVisible_type_iff {old : TypeNote} (visible : old.isVisible = true) (new : TypeNote) :
    (type old new).isVisible = true ↔ ¬ new.Erases := by
  have others (kept : (type old new).isVisible = true) (noText : ∀ name, new ≠ .text name) :
      (type old new).isVisible = true ↔ ¬ new.Erases :=
    iff_of_true kept fun ⟨name, same, _⟩ => noText name same
  cases new with
  | text name =>
    by_cases empty : name = []
    · subst empty
      exact iff_of_true visible fun ⟨_, same, present, _⟩ =>
        present (TypeNote.text.inj same).symm
    · have stored : type old (.text name) = .text (TypeExpr.withoutOptionalMark name) := by
        simp [type, TypeNote.isPresent, TypeNote.stored, empty]
      rw [stored, TypeNote.isVisible, Text.isVisible_iff]
      simp [TypeNote.Erases, empty]
  | value id => exact others rfl fun _ => TypeNote.noConfusion
  | datum datum =>
    refine others ?_ fun _ => TypeNote.noConfusion
    unfold type
    split
    · assumption
    · exact visible

/-- A rule that keeps a field visible keeps it where it does not apply, too. -/
theorem isVisible_ite {α : Type} (sees : α → Bool) {old new : α} (visible : sees old = true)
    (kept : sees new = true) (concerned : Bool) :
    sees (if concerned then new else old) = true := by
  cases concerned
  · exact visible
  · exact kept

end Merge

namespace Record

/-- Merging keeps every visible field visible, whatever the fragment holds, except that a type
may be erased by a type with nothing to see but its optional mark. -/
theorem isVisible_merge_iff (record fragment : Record) (field : RecordField)
    (visible : record.fields.isVisible field = true) :
    (record.merge fragment).fields.isVisible field = true ↔
      ¬ (field = .type ∧ record.concerns fragment .type = true ∧ fragment.fields.type.Erases) := by
  have others (noType : field ≠ .type)
      (kept : (record.merge fragment).fields.isVisible field = true) :
      (record.merge fragment).fields.isVisible field = true ↔
        ¬ (field = .type ∧ record.concerns fragment .type = true ∧ fragment.fields.type.Erases) :=
    iff_of_true kept fun erased => noType erased.1
  cases field with
  | type =>
    have merged : (record.merge fragment).fields.type =
        if record.concerns fragment .type then Merge.type record.fields.type fragment.fields.type
        else record.fields.type := rfl
    rw [RecordFields.isVisible, merged]
    by_cases concerned : record.concerns fragment .type = true
    · rw [if_pos concerned, Merge.isVisible_type_iff visible]
      simp [concerned]
    · rw [if_neg concerned]
      exact iff_of_true visible fun erased => concerned erased.2.1
  | summary =>
    exact others RecordField.noConfusion
      (Merge.isVisible_ite Text.isVisible visible (Merge.isVisible_text visible _) _)
  | description =>
    exact others RecordField.noConfusion
      (Merge.isVisible_ite Text.isVisible visible (Merge.isVisible_text visible _) _)
  | tags =>
    exact others RecordField.noConfusion
      (Merge.isVisible_ite ListField.isVisible visible (Merge.isVisible_list visible _) _)
  | examples =>
    exact others RecordField.noConfusion
      (Merge.isVisible_ite ListField.isVisible visible (Merge.isVisible_list visible _) _)
  | isOptional =>
    exact others RecordField.noConfusion
      (Merge.isVisible_ite id visible (Merge.isVisible_flag visible _) _)

/-- The documentation of a value with a type and a tag. -/
def tagged : Record where
  kind := .value
  fields := { type := .text "String".toList, tags := .items ["t".toList] }

/-- A fragment whose type is a mark between blanks, with a summary of decoration. -/
def marked : Record where
  kind := .entry
  fields := { type := .text " ? ".toList, summary := " * ".toList }

/-- The tag stays visible and the type does not. -/
theorem isVisible_merge_iff_marked :
    (tagged.fields.isVisible .tags = true ∧ (tagged.merge marked).fields.isVisible .tags = true) ∧
      tagged.fields.isVisible .type = true ∧
        ¬ (tagged.merge marked).fields.isVisible .type = true := by
  have tags : tagged.fields.isVisible .tags = true := by decide
  have type : tagged.fields.isVisible .type = true := by decide
  refine ⟨⟨tags, (isVisible_merge_iff tagged marked .tags tags).mpr fun erased => ?_⟩, type, ?_⟩
  · exact RecordField.noConfusion erased.1
  · rw [isVisible_merge_iff tagged marked .type type, not_not]
    exact ⟨rfl, rfl, " ? ".toList, rfl, by decide, List.all_eq_true.mp (by decide)⟩

/-- A fragment may erase a type without having one to offer: a lone mark leaves nothing. -/
theorem merge_erases_type :
    let record : Record := ⟨.value, { type := .text "String".toList }, {}, {}⟩
    let fragment : Record := ⟨.entry, { type := .text "?".toList }, {}, {}⟩
    record.fields.isVisible .type = true ∧
      (record.merge fragment).fields.isVisible .type = false := by
  decide

end Record

end CommentDocs
