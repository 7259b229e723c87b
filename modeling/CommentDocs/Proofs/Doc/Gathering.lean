import CommentDocs.Doc.Record
import Mathlib.Data.List.DropRight
import Mathlib.Data.List.Infix

/-!
# What several fragments come to

Merging fragments one after another can be said at once. Lists are the old entries followed by all
new ones, in order and with repetitions; a text or a type is the last one that was offered; a flag
is set if it ever was. What a fragment says about returns and properties never counts.
-/

namespace CommentDocs

open Text

namespace TypeExpr

/-- A type with an optional mark, and the type before the mark; blanks may follow the mark. -/
def IsMarked (type before : Text) : Prop :=
  ∃ blanks : Text, (∀ c ∈ blanks, isBlank c = true) ∧ type = before ++ '?' :: blanks

theorem trimEnd_of_isMarked {type before : Text} (marked : IsMarked type before) :
    trimEnd type = before ++ ['?'] := by
  obtain ⟨blanks, blank, rfl⟩ := marked
  have dropped : blanks.reverse.dropWhile isBlank = [] :=
    List.dropWhile_eq_nil_iff.mpr fun c mem => blank c (List.mem_reverse.mp mem)
  have solid : isBlank '?' = false := by decide
  simp [trimEnd, dropWhileEnd, List.dropWhile_append, dropped, solid]

theorem withoutOptionalMark_of_isMarked {type before : Text} (marked : IsMarked type before) :
    withoutOptionalMark type = before := by
  simp [withoutOptionalMark, trimEnd_of_isMarked marked]

/-- A type without a mark stays as it is. -/
theorem withoutOptionalMark_of_not_isMarked {type : Text}
    (unmarked : ∀ before, ¬ IsMarked type before) : withoutOptionalMark type = type := by
  unfold withoutOptionalMark
  split
  · rename_i reversed ends
    refine absurd ?_ (unmarked reversed.reverse)
    have kept : trimEnd type = reversed.reverse ++ ['?'] := by
      rw [← List.reverse_reverse (trimEnd type), ends, List.reverse_cons]
    refine ⟨type.rtakeWhile isBlank, fun c mem => List.mem_rtakeWhile_imp mem, ?_⟩
    have whole : trimEnd type ++ type.rtakeWhile isBlank = type :=
      List.rdropWhile_append_rtakeWhile
    rw [kept, List.append_assoc] at whole
    exact whole.symm
  · rfl

end TypeExpr

/-- The last of several offers, or what was there before. -/
def lastOr {α : Type} (old : α) (offers : List α) : α :=
  offers.getLast?.getD old

theorem lastOr_getD {α : Type} (old : α) (offer : Option α) (offers : List α) :
    lastOr (offer.getD old) offers = lastOr old (offer.toList ++ offers) := by
  cases offer with
  | none => rfl
  | some first => simp [lastOr, List.getLast?_cons]

theorem lastOr_filterMap_cons {α β : Type} (old : β) (offer : α → Option β) (first : α)
    (rest : List α) : lastOr old ((first :: rest).filterMap offer) =
      lastOr ((offer first).getD old) (rest.filterMap offer) := by
  rw [lastOr_getD]
  cases offered : offer first <;> simp [offered]

namespace Record

/-- The type that a fragment offers, as it is stored. -/
def offeredType? (fragment : Record) : Option TypeNote :=
  if fragment.kind.contributes .type && fragment.fields.type.isPresent then
    some fragment.fields.type.stored
  else none

/-- The text that a fragment offers for a field: one that is not blank. -/
def offeredText? (field : RecordField) (text : RecordFields → Text) (fragment : Record) :
    Option Text :=
  if fragment.kind.contributes field && undecorated (text fragment.fields) ≠ [] then
    some (text fragment.fields)
  else none

def addedItems (field : RecordField) (list : RecordFields → ListField) (fragment : Record) :
    List Text :=
  if fragment.kind.contributes field then (list fragment.fields).toItems else []

def setsOptional (fragment : Record) : Bool :=
  fragment.kind.contributes .isOptional && fragment.fields.isOptional

/-- What a record comes to by several fragments. -/
def gathered (record : Record) (fragments : List Record) : Record :=
  { record with
    fields :=
      { type := lastOr record.fields.type (fragments.filterMap offeredType?)
        summary :=
          lastOr record.fields.summary (fragments.filterMap (offeredText? .summary (·.summary)))
        description :=
          lastOr record.fields.description
            (fragments.filterMap (offeredText? .description (·.description)))
        tags := .items (record.fields.tags.toItems ++ fragments.flatMap (addedItems .tags (·.tags)))
        examples :=
          .items (record.fields.examples.toItems ++
            fragments.flatMap (addedItems .examples (·.examples)))
        isOptional := record.fields.isOptional || fragments.any setsOptional } }

/-- A record of a value whose lists are lists. -/
structure IsValueRecord (record : Record) : Prop where
  kind : record.kind = .value
  tags : ∃ texts, record.fields.tags = .items texts
  examples : ∃ texts, record.fields.examples = .items texts

variable {record : Record}

/-- A record of a value has every field, so it is up to the fragment what is merged. -/
theorem IsValueRecord.concerns_eq (value : record.IsValueRecord) (fragment : Record)
    (field : RecordField) : record.concerns fragment field = fragment.kind.contributes field := by
  rw [concerns, value.kind, RecordKind.has, Bool.true_and]

theorem mergedType_eq (old : TypeNote) (fragment : Record) :
    (if fragment.kind.contributes .type then Merge.type old fragment.fields.type else old) =
      fragment.offeredType?.getD old := by
  unfold offeredType? Merge.type
  cases fragment.kind.contributes .type <;> cases fragment.fields.type.isPresent <;> rfl

theorem mergedText_eq (old : Text) (field : RecordField) (text : RecordFields → Text)
    (fragment : Record) :
    (if fragment.kind.contributes field then Merge.text old (text fragment.fields) else old) =
      (fragment.offeredText? field text).getD old := by
  unfold offeredText? Merge.text isVisible
  cases fragment.kind.contributes field <;>
    by_cases left : undecorated (text fragment.fields) = [] <;> simp [left]

theorem mergedItems_eq (texts : List Text) (field : RecordField) (list : RecordFields → ListField)
    (fragment : Record) :
    (if fragment.kind.contributes field then (ListField.items texts).merge (list fragment.fields)
      else .items texts) = .items (texts ++ fragment.addedItems field list) := by
  unfold addedItems ListField.merge Merge.list
  cases fragment.kind.contributes field <;> cases (list fragment.fields).toItems <;> simp

theorem mergedFlag_eq (old : Bool) (fragment : Record) :
    (if fragment.kind.contributes .isOptional then Merge.flag old fragment.fields.isOptional
      else old) = (old || fragment.setsOptional) := by
  unfold setsOptional Merge.flag
  cases fragment.kind.contributes .isOptional <;> simp

/-- A merge takes what the fragment offers. -/
theorem IsValueRecord.merge_eq (value : record.IsValueRecord) (fragment : Record) :
    record.merge fragment =
      { record with
        fields :=
          { type := fragment.offeredType?.getD record.fields.type
            summary := (fragment.offeredText? .summary (·.summary)).getD record.fields.summary
            description :=
              (fragment.offeredText? .description (·.description)).getD record.fields.description
            tags := .items (record.fields.tags.toItems ++ fragment.addedItems .tags (·.tags))
            examples :=
              .items (record.fields.examples.toItems ++ fragment.addedItems .examples (·.examples))
            isOptional := record.fields.isOptional || fragment.setsOptional } } := by
  obtain ⟨tags, hasTags⟩ := value.tags
  obtain ⟨examples, hasExamples⟩ := value.examples
  simp only [merge, value.concerns_eq, hasTags, hasExamples, ListField.toItems, mergedType_eq,
    mergedText_eq _ _ (fun fields => fields.summary),
    mergedText_eq _ _ (fun fields => fields.description),
    mergedItems_eq _ _ (fun fields => fields.tags),
    mergedItems_eq _ _ (fun fields => fields.examples), mergedFlag_eq]

theorem IsValueRecord.merge (value : record.IsValueRecord) (fragment : Record) :
    (record.merge fragment).IsValueRecord := by
  rw [value.merge_eq]
  exact ⟨value.kind, ⟨_, rfl⟩, ⟨_, rfl⟩⟩

theorem IsValueRecord.gathered_nil (value : record.IsValueRecord) :
    record.gathered [] = record := by
  obtain ⟨tags, hasTags⟩ := value.tags
  obtain ⟨examples, hasExamples⟩ := value.examples
  obtain ⟨kind, fields, returns, properties⟩ := record
  obtain ⟨type, summary, description, _, _, isOptional⟩ := fields
  simp_all [gathered, lastOr, ListField.toItems]

theorem IsValueRecord.gathered_cons (value : record.IsValueRecord) (fragment : Record)
    (rest : List Record) :
    record.gathered (fragment :: rest) = (record.merge fragment).gathered rest := by
  rw [value.merge_eq]
  simp only [gathered, lastOr_filterMap_cons, ListField.toItems, List.append_assoc,
    List.flatMap_cons, List.any_cons, Bool.or_assoc]

/-- Each state of a run of merges is what the fragments so far come to. -/
theorem IsValueRecord.mergeAll_eq (value : record.IsValueRecord) (fragments : List Record) :
    record :: record.mergeAll fragments = fragments.inits.map record.gathered := by
  induction fragments generalizing record with
  | nil => simp [mergeAll, value.gathered_nil]
  | cons fragment rest ih =>
    rw [mergeAll, ih (value.merge fragment), List.inits_cons, List.map_cons, value.gathered_nil,
      List.map_map]
    congr 1
    exact List.map_congr_left fun firsts _ => (value.gathered_cons fragment firsts).symm

/-- A fragment without what it says about returns and properties. -/
def withoutNested (fragment : Record) : Record :=
  { fragment with returns := {}, properties := {} }

/-- Merging fragments one after another into the record of a value leaves, at every moment, what the
fragments so far come to. The returns and properties of a fragment never count, and of a type text
only the optional mark is lost. -/
theorem mergeAll_eq_gathered (value : record.IsValueRecord) (fragments : List Record) :
    record :: record.mergeAll fragments = fragments.inits.map record.gathered ∧
      record.mergeAll (fragments.map withoutNested) = record.mergeAll fragments ∧
      ∀ type : Text,
        (∀ before, TypeExpr.IsMarked type before → TypeNote.stored (.text type) = .text before) ∧
        ((∀ before, ¬ TypeExpr.IsMarked type before) →
          TypeNote.stored (.text type) = .text type) := by
  refine
    ⟨value.mergeAll_eq fragments, ?nested, fun type => ⟨fun before marked => ?_, fun none => ?_⟩⟩
  case nested =>
    clear value
    induction fragments generalizing record with
    | nil => rfl
    | cons fragment rest ih =>
      have same : record.merge fragment.withoutNested = record.merge fragment := rfl
      rw [List.map_cons, mergeAll, mergeAll, same, ih]
  · rw [TypeNote.stored, TypeExpr.withoutOptionalMark_of_isMarked marked]
  · rw [TypeNote.stored, TypeExpr.withoutOptionalMark_of_not_isMarked none]

/-- A value with a type and a tag. -/
def known : Record where
  kind := .value
  fields := { type := .text "Old".toList, tags := .items ["a".toList] }

/-- Three fragments of different kinds, the second one with a summary of decoration. -/
def news : List Record :=
  [{ kind := .entry,
     fields := { type := .text "Number? ".toList, summary := "one".toList,
                 tags := .items ["x".toList], isOptional := true } },
   { kind := .returns, fields := { type := .text [], summary := " * ".toList } },
   { kind := .comment,
     fields := { summary := " two ".toList, tags := .items ["x".toList],
                 examples := .items ["e".toList], isOptional := true } }]

theorem isValueRecord_known : known.IsValueRecord :=
  ⟨rfl, ⟨_, rfl⟩, ⟨_, rfl⟩⟩

/-- The type and the flag are those of the first of `news`, the summary is that of the last. -/
theorem mergeAll_eq_gathered_news :
    known.IsValueRecord ∧ known :: known.mergeAll news = news.inits.map known.gathered ∧
      known.gathered news =
        { kind := .value
          fields := { type := .text "Number".toList, summary := " two ".toList,
                      tags := .items ["a".toList, "x".toList, "x".toList],
                      examples := .items ["e".toList], isOptional := true } } :=
  ⟨isValueRecord_known, (mergeAll_eq_gathered isValueRecord_known news).1, by decide⟩

end Record

end CommentDocs
