import CommentDocs.Doc.Merge

/-!
# Metadata records of every kind

Documentation is exchanged as records of four kinds, each with its own set of fields. One
record can be merged into another field by field: a field counts only if the fragment's
kind can be merged and the destination has the field. A record of a value is a
destination, never a fragment; returns and properties of a record belong to other values
and are never merged.

A list field of a destination may hold something other than a list. Such a field is
replaced by the first list that is merged into it.
-/

namespace CommentDocs

inductive RecordKind where
  | value
  | entry
  | returns
  | comment
  deriving DecidableEq, Repr

inductive RecordField where
  | type
  | summary
  | description
  | tags
  | examples
  | isOptional
  deriving DecidableEq, Repr

namespace RecordKind

def has : RecordKind → RecordField → Bool
  | .value, _ => true
  | .entry, field => field ≠ .examples
  | .returns, field => field = .type || field = .summary || field = .tags
  | .comment, field => field ≠ .isOptional

def contributes (kind : RecordKind) (field : RecordField) : Bool :=
  kind ≠ .value && kind.has field

end RecordKind

inductive ListField where
  | items (texts : List Text)
  | other (datum : Datum)
  deriving DecidableEq, Repr

namespace ListField

/-- The items that a fragment contributes; a text contributes its characters. -/
def toItems : ListField → List Text
  | .items texts => texts
  | .other (.text text) => text.map ([·])
  | .other _ => []

/-- A list field after the items of a fragment. -/
def merge (old new : ListField) : ListField :=
  match old, new.toItems with
  | old, [] => old
  | .items texts, added => .items (Merge.list texts added)
  | .other _, added => .items added

end ListField

/-- The fields of a record; a kind without a field leaves it at its default. -/
structure RecordFields where
  type : TypeNote := .text []
  summary : Text := []
  description : Text := []
  tags : ListField := .items []
  examples : ListField := .items []
  isOptional : Bool := false
  deriving DecidableEq, Repr

structure Record where
  kind : RecordKind
  fields : RecordFields := {}
  returns : RecordFields := {}
  properties : Table RecordFields := {}
  deriving DecidableEq, Repr

namespace Record

/-- Whether a merge of `fragment` into `record` concerns a field. -/
def concerns (record fragment : Record) (field : RecordField) : Bool :=
  record.kind.has field && fragment.kind.contributes field

/-- Merge a fragment into a record, field by field. -/
def merge (record fragment : Record) : Record :=
  let pick {α : Type} (field : RecordField) (rule : α → α → α) (old new : α) : α :=
    if record.concerns fragment field then rule old new else old
  let old := record.fields
  let new := fragment.fields
  { record with
    fields :=
      { type := pick .type Merge.type old.type new.type
        summary := pick .summary Merge.text old.summary new.summary
        description := pick .description Merge.text old.description new.description
        tags := pick .tags ListField.merge old.tags new.tags
        examples := pick .examples ListField.merge old.examples new.examples
        isOptional := pick .isOptional Merge.flag old.isOptional new.isOptional } }

/-- The state of a record after each of several fragments. -/
def mergeAll (record : Record) : List Record → List Record
  | [] => []
  | fragment :: rest => record.merge fragment :: (record.merge fragment).mergeAll rest

/-- The part of a record that can be merged into the documentation of a value. -/
def toFragment (record : Record) : Fragment :=
  let pick {α : Type} (field : RecordField) (value default : α) : α :=
    if record.kind.contributes field then value else default
  { type := pick .type record.fields.type (.text [])
    summary := pick .summary record.fields.summary []
    description := pick .description record.fields.description []
    tags := pick .tags record.fields.tags.toItems []
    examples := pick .examples record.fields.examples.toItems []
    isOptional := pick .isOptional record.fields.isOptional false }

end Record

end CommentDocs
