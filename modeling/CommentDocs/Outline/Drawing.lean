import CommentDocs.Outline.Basic
import CommentDocs.Outline.Glyphs

/-!
# Drawing outlines

An outline is drawn with a line for each label, joined by guides to the label above. A
label that has several lines itself is continued under its first. Every line is cut to the
width of the page, guides included, and a label for which the guides leave no room is not
drawn.
-/

namespace CommentDocs.Outline

open Text

/-- The number of cells in a line of a page, unless another width is asked for. -/
def pageWidth : Nat := 80

def branchGuide (isLast : Bool) : Text :=
  (if isLast then "└── " else "├── ").toList

/-- The guide before what belongs to a label but is not its first line. -/
def stemGuide (isLast : Bool) : Text :=
  (if isLast then "    " else "│   ").toList

def runsCells : List Text → Nat
  | [] => 0
  | run :: rest => cells run + runsCells rest

/-- As many runs as leave some of `room` cells, and what fits of the next one. -/
def cutRuns (room : Nat) : List Text → Text
  | [] => []
  | run :: rest =>
    if cells run < room then run ++ cutRuns (room - cells run) rest
    else fitting room run

/-- A line behind its guides, cut to the page. -/
def line (width : Nat) (guides : Text) (runs : List Text) : Text :=
  let room := width - cells guides
  guides ++ if runsCells runs ≤ room then runs.flatten else cutRuns room runs

/-- The lines of a label; `first` stands before the first one and `others`, which is as
wide, before the rest. -/
def drawLabel (width : Nat) (first others : Text) (label : Text) : List Text :=
  if width ≤ cells first then []
  else
    match labelLines label with
    | [] => []
    | runs :: more => line width first runs :: more.map (line width others)

mutual

/-- The lines of an outline. The guides before its first line are `first`, and those before
all others start with `others`. -/
def draw (width : Nat) (first others : Text) : Outline → List Text
  | .node label children => drawLabel width first others label ++ drawAll width others children

/-- The lines of the outlines below a label whose lines start with `guides`. -/
def drawAll (width : Nat) (guides : Text) : List Outline → List Text
  | [] => []
  | child :: rest =>
    draw width (guides ++ branchGuide rest.isEmpty) (guides ++ stemGuide rest.isEmpty) child ++
      drawAll width guides rest

end

/-- The drawing of an outline on a page, each line ended by a newline. -/
def render (width : Nat) (outline : Outline) : Text :=
  (draw width [] [] outline).flatMap fun line => line ++ ['\n']

end CommentDocs.Outline
