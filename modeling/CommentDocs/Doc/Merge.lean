import CommentDocs.Comment.Doc
import CommentDocs.Graph.Value
import CommentDocs.Text.Decoration
import CommentDocs.TypeExpr

/-!
# Merging documentation into a value

Several comments may document one value. What a comment does not say never erases what
an earlier one said: texts are replaced only by visible texts, lists grow at the end, a
flag once set stays set, and a type gives way only to a type. A type text is stored
without its optional mark.
-/

namespace CommentDocs

open Text

/-- The part of a comment that concerns one value. -/
structure Fragment where
  type : TypeNote := .text []
  summary : Text := []
  description : Text := []
  tags : List Text := []
  examples : List Text := []
  isOptional : Bool := false
  deriving DecidableEq, Repr

namespace Fragment

/-- The documentation of a parameter or property, its type read as `type`. -/
def ofEntry (doc : Comment.EntryDoc) (type : TypeNote) : Fragment where
  type := type
  summary := doc.summary
  description := doc.description
  tags := doc.tags
  isOptional := doc.isOptional

def ofReturn (doc : Comment.ReturnDoc) : Fragment where
  type := .text doc.type
  summary := doc.summary
  tags := doc.tags

/-- What a comment says about the value it belongs to. -/
def ofComment (doc : Comment.CommentDoc) : Fragment where
  type := .text doc.type
  summary := doc.summary
  description := doc.description
  tags := doc.tags
  examples := doc.examples

end Fragment

/-- A type note as it is stored: a text loses its optional mark. -/
def TypeNote.stored : TypeNote → TypeNote
  | .text name => .text (TypeExpr.withoutOptionalMark name)
  | note => note

namespace Merge

def type (old new : TypeNote) : TypeNote :=
  if new.isPresent then new.stored else old

/-- A text gives way to a visible text. -/
def text (old new : Text) : Text :=
  if isVisible new then new else old

/-- Lists are joined; entries may repeat. -/
def list (old new : List Text) : List Text :=
  old ++ new

/-- A flag stays set. -/
def flag (old new : Bool) : Bool :=
  old || new

end Merge

/-- The documentation of a value after one more fragment. -/
def ValueDoc.merge (doc : ValueDoc) (fragment : Fragment) : ValueDoc where
  type := Merge.type doc.type fragment.type
  summary := Merge.text doc.summary fragment.summary
  description := Merge.text doc.description fragment.description
  tags := Merge.list doc.tags fragment.tags
  examples := Merge.list doc.examples fragment.examples
  isOptional := Merge.flag doc.isOptional fragment.isOptional

end CommentDocs
