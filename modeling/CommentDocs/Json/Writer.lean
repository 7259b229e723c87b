import CommentDocs.Datum
import CommentDocs.Text.Hex

/-!
# Writing JSON

Data are written as JSON in ASCII: every other character is escaped by its UTF-16 units. A
datum is written on one line, or with an item on each line, indented by its depth. Numbers
are written as they are, and so are points in time, as texts.
-/

namespace CommentDocs.Json

open Text

def units (c : Char) : List Nat :=
  if c.toNat < 0x10000 then [c.toNat]
  else
    let offset := c.toNat - 0x10000
    [0xD800 + offset / 0x400, 0xDC00 + offset % 0x400]

/-- A character as it stands between quotes. -/
def escaped (c : Char) : Text :=
  if c = '"' then "\\\"".toList
  else if c = '\\' then "\\\\".toList
  else if c = '\x08' then "\\b".toList
  else if c = '\x0c' then "\\f".toList
  else if c = '\n' then "\\n".toList
  else if c = '\r' then "\\r".toList
  else if c = '\t' then "\\t".toList
  else if 0x20 ≤ c.toNat && c.toNat < 0x7F then [c]
  else (units c).flatMap fun unit => "\\u".toList ++ hex 4 unit

def quote (text : Text) : Text :=
  '"' :: text.flatMap escaped ++ ['"']

def boolean (value : Bool) : Text :=
  (if value then "true" else "false").toList

mutual

def compact : Datum → Text
  | .null => "null".toList
  | .boolean value => boolean value
  | .integer value => (toString value).toList
  | .real lexeme => lexeme
  | .moment lexeme => quote lexeme
  | .text value => quote value
  | .array items => '[' :: List.intercalate ", ".toList (compactItems items) ++ [']']
  | .table entries => '{' :: List.intercalate ", ".toList (compactEntries entries) ++ ['}']

def compactItems : List Datum → List Text
  | [] => []
  | item :: rest => compact item :: compactItems rest

def compactEntries : List (Text × Datum) → List Text
  | [] => []
  | (key, value) :: rest => (quote key ++ ": ".toList ++ compact value) :: compactEntries rest

end

/-- The blanks before an item at a depth. -/
def indentation (depth : Nat) : Text :=
  List.replicate (2 * depth) ' '

/-- Items on lines of their own between brackets; without items the brackets touch. -/
def block (depth : Nat) (left right : Char) (items : List Text) : Text :=
  match items with
  | [] => [left, right]
  | items =>
    left :: '\n' :: List.intercalate ",\n".toList (items.map (indentation (depth + 1) ++ ·)) ++
      '\n' :: indentation depth ++ [right]

mutual

def indented (depth : Nat) : Datum → Text
  | .array items => block depth '[' ']' (indentedItems (depth + 1) items)
  | .table entries => block depth '{' '}' (indentedEntries (depth + 1) entries)
  | .null => compact .null
  | .boolean value => compact (.boolean value)
  | .integer value => compact (.integer value)
  | .real lexeme => compact (.real lexeme)
  | .moment lexeme => compact (.moment lexeme)
  | .text value => compact (.text value)

def indentedItems (depth : Nat) : List Datum → List Text
  | [] => []
  | item :: rest => indented depth item :: indentedItems depth rest

def indentedEntries (depth : Nat) : List (Text × Datum) → List Text
  | [] => []
  | (key, value) :: rest =>
    (quote key ++ ": ".toList ++ indented depth value) :: indentedEntries depth rest

end

end CommentDocs.Json
