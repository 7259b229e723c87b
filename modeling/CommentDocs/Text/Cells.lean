import CommentDocs.Text.CellTable
import CommentDocs.Text.CodeRanges
import CommentDocs.Text.Emoji

/-!
# Text in cells

A terminal shows text in cells of equal width. Most characters take one cell, some two, and
marks that join the character before them take none. A joiner makes one sign of the
characters beside it, so what follows it takes no cell of its own; a selector widens some
characters to the two cells of an emoji. A text is cut between clusters: a character
together with all that joins it. Main statement: the clusters make up the text.
-/

namespace CommentDocs.Text

def cellWidth (c : Char) : Nat :=
  if CodeRanges.contains wideRanges c then 2
  else if CodeRanges.contains zeroWidthRanges c then 0
  else 1

/-- Makes one sign of the characters beside it. -/
def joiner : Char := Char.ofNat 0x200D

/-- Whether the emoji selector makes a character one cell wider. -/
def isWidenable (c : Char) : Bool :=
  CodeRanges.contains widenableRanges c

/-- The number of cells that a text takes behind the character `last`, which a selector may
still widen. -/
def cellsAfter (last : Option Char) : Text → Nat
  | [] => 0
  | c :: rest =>
    if c = joiner then
      match rest with
      | [] => 0
      | _ :: others => cellsAfter last others
    else if c = emojiSelector then
      (if last.any isWidenable then 1 else 0) + cellsAfter none rest
    else if cellWidth c = 0 then cellsAfter last rest
    else cellWidth c + cellsAfter (some c) rest

def cells (text : Text) : Nat :=
  cellsAfter none text

/-- The beginning of a text that joins the character before it, and the rest. -/
def splitJoined : Text → Text × Text
  | [] => ([], [])
  | c :: rest =>
    if c = joiner then
      match rest with
      | [] => ([c], [])
      | d :: others => (c :: d :: (splitJoined others).1, (splitJoined others).2)
    else if cellWidth c = 0 then (c :: (splitJoined rest).1, (splitJoined rest).2)
    else ([], c :: rest)

theorem splitJoined_append (text : Text) :
    (splitJoined text).1 ++ (splitJoined text).2 = text := by
  fun_induction splitJoined text <;> simp_all

theorem length_splitJoined_le (text : Text) : (splitJoined text).2.length ≤ text.length := by
  have := congrArg List.length (splitJoined_append text)
  rw [List.length_append] at this
  omega

def clusters : Text → List Text
  | [] => []
  | c :: rest => (c :: (splitJoined rest).1) :: clusters (splitJoined rest).2
termination_by text => text.length
decreasing_by
  have := length_splitJoined_le rest
  simp only [List.length_cons]
  omega

/-- The clusters make up the text. -/
@[simp] theorem flatten_clusters (text : Text) : (clusters text).flatten = text := by
  fun_induction clusters text with
  | case1 => rfl
  | case2 c rest ih => simp [ih, splitJoined_append]

def clusterCells : Text → Nat
  | [] => 0
  | c :: rest => cellWidth c + cellsAfter (some c) rest

/-- The clusters at the beginning that fit into `room` cells. A blank stands for a wide
cluster of which only a half would fit. -/
def takeClusters (room : Nat) : List Text → Text
  | [] => []
  | cluster :: rest =>
    if clusterCells cluster ≤ room then
      cluster ++ takeClusters (room - clusterCells cluster) rest
    else if room = 0 then []
    else [' ']

/-- The beginning of a text that fits into `room` cells. -/
def fitting (room : Nat) (text : Text) : Text :=
  if room = 0 then []
  else if cells text ≤ room then text
  else takeClusters room (clusters text)

def tabStop : Nat := 8

/-- The number of blanks in place of a tab that follows `text`: at least one, and as many as
reach the next stop. -/
def tabBlanks (text : Text) : Nat :=
  1 + (tabStop - cells (text ++ [' ']) % tabStop) % tabStop

end CommentDocs.Text
