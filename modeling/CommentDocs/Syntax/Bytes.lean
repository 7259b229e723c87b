import CommentDocs.Text.Basic

/-!
# Byte positions

A parser counts bytes of UTF-8, this library counts characters. `charIndex` maps a byte
position to the character that holds it; positions past the end are mapped to the end.
-/

namespace CommentDocs.Syntax

def byteSize : Text → Nat
  | [] => 0
  | c :: rest => c.utf8Size + byteSize rest

/-- The position of the character that holds a byte. -/
def charIndex : Text → Nat → Nat
  | [], _ => 0
  | c :: rest, byte => if c.utf8Size ≤ byte then charIndex rest (byte - c.utf8Size) + 1 else 0

/-- The characters of a text, whose first byte is `offset`, that lie wholly between two
bytes. -/
def betweenFrom (offset start stop : Nat) : Text → Text
  | [] => []
  | c :: rest =>
    let next := offset + c.utf8Size
    if start ≤ offset && next ≤ stop then c :: betweenFrom next start stop rest
    else betweenFrom next start stop rest

/-- The characters that lie wholly between two bytes; parts of characters are left out. -/
def betweenBytes (text : Text) (start stop : Nat) : Text :=
  betweenFrom 0 start stop text

end CommentDocs.Syntax
