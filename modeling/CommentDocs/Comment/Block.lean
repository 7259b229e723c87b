import CommentDocs.Comment.Line

/-!
# Comment blocks

A documentation comment looks like this:

```
 summary:
     Adds two numbers.
 a: Number
     The first operand.
```

The column of its first line is the key column. A later line opens a section when it
stands exactly at that column and has the shape of a key line; every other line
continues the section above it. A comment that does not open with a key line, or opens
with the key `note`, is no documentation.
-/

namespace CommentDocs.Comment

open Text

/-- The lines of a documentation comment and the column at which its keys stand. -/
structure Block where
  lines : List Text
  keyIndent : Nat
  deriving DecidableEq, Repr

/-- A line of a block, with its key when it opens a section. -/
structure ScannedLine where
  text : Text
  keyLine : Option KeyLine
  deriving DecidableEq, Repr

/-- The lines of a text: one newline at the end and a carriage return before a newline
belong to the line end. -/
def textLines (text : Text) : List Text :=
  (splitOn '\n' (dropSuffix ['\n'] text)).map (dropSuffix ['\r'])

/-- A comment with this key first is a remark, not documentation. -/
def isRemarkKey (key : Text) : Bool :=
  lowerAscii key = "note".toList

namespace Block

/-- The block of a comment text, unless the text is no documentation. -/
def ofText? (text : Text) : Option Block :=
  match textLines text with
  | [] => none
  | first :: rest =>
    match KeyLine.ofLine? first with
    | some line => if isRemarkKey line.key then none else some ⟨first :: rest, indentWidth first⟩
    | none => none

/-- Whether the text of a line starts exactly at the key column. A line of blanks that is
as wide as the indentation has no text. -/
def isKeyPosition (block : Block) (line : Text) : Bool :=
  line ≠ [] && indentWidth line = block.keyIndent && width line ≠ block.keyIndent

def keyLine? (block : Block) (line : Text) : Option KeyLine :=
  if block.isKeyPosition line then KeyLine.ofLine? line else none

/-- Every line with its key. -/
def scan (block : Block) : List ScannedLine :=
  block.lines.map fun line => ⟨line, block.keyLine? line⟩

end Block

end CommentDocs.Comment
