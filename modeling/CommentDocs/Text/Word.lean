import CommentDocs.Text.WordTable

/-!
# Word characters

Type names are runs of word characters: letters and numbers of every script and
the underscore. ASCII is decided without the table.
-/

namespace CommentDocs.Text

/-- A letter, a character with a numeric value, or the underscore. -/
def isWord (c : Char) : Bool :=
  c.isAlphanum || c = '_' || (0x80 ≤ c.toNat && letterOrNumberRanges.contains c)

end CommentDocs.Text
