import CommentDocs.Text.Hex
import CommentDocs.Text.HiddenTable

/-!
# Quoted texts

A text in a message is quoted so that every character of it can be seen. Single quotes
are used, unless the text has single quotes and no double ones. The backslash, the quote
and every character without a visible form are escaped.
-/

namespace CommentDocs.Text

/-- Whether a character has a visible form or is the space. -/
def isVisibleChar (c : Char) : Bool :=
  if c.toNat < 0x80 then 0x20 ≤ c.toNat && c.toNat < 0x7F else !hiddenRanges.contains c

def codeEscape (c : Char) : Text :=
  if c.toNat < 0x100 then "\\x".toList ++ hex 2 c.toNat
  else if c.toNat < 0x10000 then "\\u".toList ++ hex 4 c.toNat
  else "\\U".toList ++ hex 8 c.toNat

def quotedChar (quote c : Char) : Text :=
  if c = '\\' || c = quote then ['\\', c]
  else if c = '\n' then "\\n".toList
  else if c = '\r' then "\\r".toList
  else if c = '\t' then "\\t".toList
  else if isVisibleChar c then [c]
  else codeEscape c

/-- The quote that a text is put in. -/
def quoteFor (text : Text) : Char :=
  if text.contains '\'' && !text.contains '"' then '"' else '\''

def quoted (text : Text) : Text :=
  let quote := quoteFor text
  quote :: text.flatMap (quotedChar quote) ++ [quote]

end CommentDocs.Text
