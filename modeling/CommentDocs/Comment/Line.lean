import CommentDocs.Text.Blank

/-!
# Lines of a keyed comment

A line of the shape `key: content` opens a section. Keys are compared by the column
at which they stand, where a tab counts as two columns and a bar as one, because
examples draw bars inside the indentation.
-/

namespace CommentDocs.Comment

open Text

/-- The key of a line and the text after its colon. -/
structure KeyLine where
  key : Text
  content : Text
  deriving DecidableEq, Repr

def isKeyChar (c : Char) : Bool :=
  c ≠ ':' && !isBlank c

/-- A text that is one line, with or without a newline at its end. -/
def singleLine? (text : Text) : Option Text :=
  match splitOn '\n' text with
  | [line] => some line
  | [line, []] => some line
  | _ => none

/-- Read a line as `key: content`; the blanks around the key and before the content are
not part of either. -/
def KeyLine.ofLine? (line : Text) : Option KeyLine :=
  let start := trimStart line
  match start.takeWhile isKeyChar, start.dropWhile isKeyChar with
  | c :: key, ':' :: body => (singleLine? (trimStart body)).map (⟨c :: key, ·⟩)
  | _, _ => none

/-- The columns that one character takes. -/
def columns (c : Char) : Nat :=
  if c = '\t' then 2 else 1

def width : Text → Nat
  | [] => 0
  | c :: rest => columns c + width rest

def isIndentation (c : Char) : Bool :=
  isBlank c || c = '|'

/-- The column at which the text of a line starts. -/
def indentWidth (line : Text) : Nat :=
  width (line.takeWhile isIndentation)

end CommentDocs.Comment
