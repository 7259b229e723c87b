import CommentDocs.Text.Basic

/-!
# Line breaks

A text from elsewhere may break its lines in several ways. Read from a file, a carriage
return with or without a newline counts as a newline; shown in one line, a text ends at any
character that breaks a line.
-/

namespace CommentDocs.Text

def isLineBreak (c : Char) : Bool :=
  (0x0A ≤ c.toNat && c.toNat ≤ 0x0D) || (0x1C ≤ c.toNat && c.toNat ≤ 0x1E) ||
    c.toNat = 0x85 || c.toNat = 0x2028 || c.toNat = 0x2029

/-- The first line of a text, without what ends it. -/
def firstLine (text : Text) : Text :=
  text.takeWhile fun c => !isLineBreak c

/-- The text in which every line ends in a newline alone. -/
def withNewlines : Text → Text
  | '\r' :: '\n' :: rest => '\n' :: withNewlines rest
  | '\r' :: rest => '\n' :: withNewlines rest
  | c :: rest => c :: withNewlines rest
  | [] => []

end CommentDocs.Text
