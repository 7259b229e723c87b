import CommentDocs.Text.Cells
import CommentDocs.Text.Markup

/-!
# Labels as glyphs

A label is shown as glyphs, each in a style or not, with an edge wherever the style may
change. The glyphs between two edges are drawn as one run.
-/

namespace CommentDocs.Outline

open Markup Text

/-- A character to draw, or a place where the style may change. -/
inductive Glyph where
  | char (c : Char) (isStyled : Bool)
  | edge
  deriving DecidableEq, Repr

namespace Glyph

/-- Whether a character is shown: the bell, the backspace and the breaks that move within a
page are not. -/
def isShown (c : Char) : Bool :=
  c.toNat ≠ 7 && c.toNat ≠ 8 && c.toNat ≠ 11 && c.toNat ≠ 12 && c.toNat ≠ 13

/-- The glyphs of pieces inside `depth` open tags, with their emoji codes replaced. -/
def ofPieces (depth : Nat) : List Piece → List Glyph
  | [] => []
  | .text text :: rest =>
    ((withEmoji text).filter isShown).map (.char · (depth ≠ 0)) ++ ofPieces depth rest
  | .openTag :: rest => .edge :: ofPieces (depth + 1) rest
  | .closeTag :: rest => .edge :: ofPieces (depth - 1) rest

def ofLabel (label : Text) : List Glyph :=
  ofPieces 0 (pieces label)

def isBreak : Glyph → Bool
  | .char c _ => c = '\n'
  | .edge => false

/-- The maximal stretches without a separator, never none. -/
def splitWhere (isSeparator : Glyph → Bool) : List Glyph → List (List Glyph)
  | [] => [[]]
  | glyph :: rest =>
    if isSeparator glyph then [] :: splitWhere isSeparator rest
    else
      match splitWhere isSeparator rest with
      | [] => [[glyph]]
      | stretch :: others => (glyph :: stretch) :: others

/-- A line with blanks in place of its tabs. `part` holds, backwards, what was read since the
last tab. The blanks of a tab in a style are the end of a run. -/
def withoutTabs (part : Text) : List Glyph → List Glyph
  | [] => []
  | .edge :: rest => .edge :: withoutTabs part rest
  | .char c isStyled :: rest =>
    if c = '\t' then
      List.replicate (tabBlanks part.reverse) (.char ' ' isStyled) ++
        (if isStyled then [.edge] else []) ++ withoutTabs [] rest
    else .char c isStyled :: withoutTabs (c :: part) rest

def char? : Glyph → Option Char
  | .char c _ => some c
  | .edge => none

def runs (line : List Glyph) : List Text :=
  (splitWhere (· = .edge) (withoutTabs [] line)).map (·.filterMap char?)

end Glyph

/-- The lines of a label, each as the runs that it is drawn with. -/
def labelLines (label : Text) : List (List Text) :=
  (Glyph.splitWhere Glyph.isBreak (Glyph.ofLabel label)).map Glyph.runs

end CommentDocs.Outline
