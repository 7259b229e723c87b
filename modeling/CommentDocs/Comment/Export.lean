import CommentDocs.Comment.Doc
import CommentDocs.Datum

/-!
# Documentation as data

What a comment says, as a tree of named fields for other tools to read. Every field is
present, also an empty one.
-/

namespace CommentDocs.Comment

def textItems (texts : List Text) : Datum :=
  .array (texts.map .text)

def textField (name : String) (value : Text) : Text × Datum :=
  (name.toList, .text value)

def EntryDoc.datum (doc : EntryDoc) : Datum :=
  .table [textField "type" doc.type, textField "summary" doc.summary,
    textField "description" doc.description, ("tags".toList, textItems doc.tags),
    ("is_optional".toList, .boolean doc.isOptional)]

def ReturnDoc.datum (doc : ReturnDoc) : Datum :=
  .table [textField "type" doc.type, textField "summary" doc.summary,
    ("tags".toList, textItems doc.tags)]

def CommentDoc.datum (doc : CommentDoc) : Datum :=
  .table [textField "type" doc.type, textField "summary" doc.summary,
    textField "description" doc.description, ("tags".toList, textItems doc.tags),
    ("examples".toList, textItems doc.examples), ("returns".toList, doc.returns.datum),
    ("properties".toList, .table (doc.entries.entries.map fun (name, entry) =>
      (name, entry.datum)))]

end CommentDocs.Comment
