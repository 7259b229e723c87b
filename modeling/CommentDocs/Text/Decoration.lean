import CommentDocs.Text.Blank

/-!
# Decoration around comment text

Comment text may keep asterisks from a banner such as `/** … */`. They are trimmed
at the start together with the blanks; at the end only blanks are.
-/

namespace CommentDocs.Text

def isDecoration (c : Char) : Bool :=
  isBlank c || c = '*'

/-- A text without the blanks and asterisks before it and the blanks after it. -/
def undecorated (text : Text) : Text :=
  trimEnd (text.dropWhile isDecoration)

/-- Whether anything is left once the decoration is gone. -/
def isVisible (text : Text) : Bool :=
  !(undecorated text).isEmpty

end CommentDocs.Text
