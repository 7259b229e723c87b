import CommentDocs.Table

/-!
# What a documentation comment says

A comment documents the value it belongs to, what that value returns, and its
parameters or properties by name.
-/

namespace CommentDocs.Comment

/-- The documentation of one parameter or property. -/
structure EntryDoc where
  type : Text := []
  summary : Text := []
  description : Text := []
  tags : List Text := []
  isOptional : Bool := false
  deriving DecidableEq, Repr

structure ReturnDoc where
  type : Text := []
  summary : Text := []
  tags : List Text := []
  deriving DecidableEq, Repr

/-- Whether a return value is documented at all; tags alone do not count. -/
def ReturnDoc.isDocumented (doc : ReturnDoc) : Bool :=
  doc.type ≠ [] || doc.summary ≠ []

structure CommentDoc where
  type : Text := []
  summary : Text := []
  description : Text := []
  tags : List Text := []
  examples : List Text := []
  returns : ReturnDoc := {}
  entries : Table EntryDoc := {}
  deriving DecidableEq, Repr

end CommentDocs.Comment
