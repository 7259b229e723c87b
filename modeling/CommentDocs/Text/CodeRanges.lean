import CommentDocs.Text.Basic

/-!
# Sets of code points given by ranges

A property of characters from the Unicode tables is stored as an ascending list of
ranges, both ends included.
-/

namespace CommentDocs.Text

/-- Ranges of code points, both ends included. -/
abbrev CodeRanges := List (Nat × Nat)

namespace CodeRanges

/-- Whether some range contains the code point of `c`. The ranges ascend, so the
search stops at the first one that does not end below `c`. -/
def contains (ranges : CodeRanges) (c : Char) : Bool :=
  match ranges with
  | [] => false
  | (first, last) :: rest =>
    if last < c.toNat then contains rest c else first ≤ c.toNat

end CodeRanges

end CommentDocs.Text
