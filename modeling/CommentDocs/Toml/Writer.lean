import CommentDocs.Datum
import CommentDocs.Toml.Lexeme

/-!
# Writing TOML

Texts are written as basic strings on one line. Quotes, backslashes and control
characters are escaped and everything else is written as it is. A key is written bare if
it can be.
-/

namespace CommentDocs.Toml

open Text

def escaped (c : Char) : Text :=
  if c = '"' then "\\\"".toList
  else if c = '\\' then "\\\\".toList
  else if c = '\x08' then "\\b".toList
  else if c = '\t' then "\\t".toList
  else if c = '\n' then "\\n".toList
  else if c = '\x0c' then "\\f".toList
  else if c = '\r' then "\\r".toList
  else if c.toNat < 0x20 || c.toNat = 0x7F then "\\u".toList ++ hex 4 c.toNat
  else [c]

def basicString (text : Text) : Text :=
  '"' :: text.flatMap escaped ++ ['"']

/-- A key, bare if it can be. -/
def writtenKey (key : Text) : Text :=
  if key ≠ [] ∧ key.all isBareKeyChar = true then key else basicString key

def pairLine (key value : Text) : Text :=
  writtenKey key ++ " = ".toList ++ basicString value ++ ['\n']

def headerLine (path : List Text) : Text :=
  '[' :: joinWith '.' (path.map writtenKey) ++ "]\n".toList

def commentLine (text : Text) : Text :=
  "# ".toList ++ text ++ ['\n']

end CommentDocs.Toml
