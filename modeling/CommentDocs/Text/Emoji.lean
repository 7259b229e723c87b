import CommentDocs.Text.Blank
import CommentDocs.Text.EmojiTable
import CommentDocs.Text.Hex

/-!
# Emoji codes

The name of an emoji between two colons stands for the emoji. A name may end in `-emoji` or
`-text`, which asks for the coloured or the plain form of the glyph. A code ends at the first
colon after it, no code holds a blank, and one whose name is unknown stays as it is.
-/

namespace CommentDocs.Text

/-- The glyph with given code points, in hexadecimal with dashes between them. -/
def glyphOf (codes : Text) : Text :=
  (splitOn '-' codes).filterMap fun digits => (hexValue? digits).bind charOfCode?

/-- Names and their glyphs, from words that alternate between the two. -/
def glyphEntries : List Text → List (Text × Text)
  | name :: codes :: rest => (name, glyphOf codes) :: glyphEntries rest
  | _ => []

def emoji : List (Text × Text) :=
  emojiLines.flatMap fun line => glyphEntries (words line.toList)

/-- Lower-case a letter. Names of emoji hold no letters past Latin-1, but two signs there
are capitals of Latin-1 letters. -/
def lowerLatin (c : Char) : Char :=
  if 'À' ≤ c && c ≤ 'Þ' && c ≠ '×' then Char.ofNat (c.toNat + 32)
  else if c.toNat = 0x212A then 'k'
  else if c.toNat = 0x212B then 'å'
  else c.toLower

/-- Shows the character before it in colour. -/
def emojiSelector : Char := Char.ofNat 0xFE0F

/-- Shows the character before it as a plain sign. -/
def textSelector : Char := Char.ofNat 0xFE0E

/-- The name in an emoji code, and the selector that its ending asks for. -/
def nameAndSelector (code : Text) : Text × Text :=
  if "-emoji".toList.isSuffixOf code then (dropSuffix "-emoji".toList code, [emojiSelector])
  else if "-text".toList.isSuffixOf code then (dropSuffix "-text".toList code, [textSelector])
  else (code, [])

/-- What is shown for an emoji code, given without its colons. -/
def emojiFor (code : Text) : Text :=
  let (name, selector) := nameAndSelector code
  match emoji.lookup (name.map lowerLatin) with
  | some glyph => glyph ++ selector
  | none => ':' :: code ++ [':']

def isCodeChar (c : Char) : Bool :=
  c ≠ ':' && !isBlank c

def withEmoji : Text → Text
  | [] => []
  | c :: rest =>
    if c = ':' then
      match _after : rest.dropWhile isCodeChar with
      | ':' :: others => emojiFor (rest.takeWhile isCodeChar) ++ withEmoji others
      | _ => c :: withEmoji rest
    else c :: withEmoji rest
termination_by text => text.length
decreasing_by
  · have := (List.dropWhile_suffix (l := rest) isCodeChar).length_le
    simp_all
    omega
  all_goals simp

end CommentDocs.Text
