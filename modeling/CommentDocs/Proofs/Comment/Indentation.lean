import CommentDocs.Proofs.Comment.Passage

/-!
# Comments at another column

A comment means the same wherever it stands: blanks in front of every line move the key column and
all lines alike. A line keeps its key, because keys are read without the blanks before them and are
compared with the key column; and whatever a line adds to a field is trimmed at the start. The one
line without a column of its own is the empty one, and it opens no section before or after.
-/

namespace CommentDocs.Comment

open Text

/-- A text with a margin in front of every line; a newline at the end belongs to the last line. -/
def indented (margin text : Text) : Text :=
  joinWith '\n' ((splitOn '\n' (dropSuffix ['\n'] text)).map (margin ++ ·)) ++
    if ['\n'].isSuffixOf text then ['\n'] else []

/-- A block with a margin in front of every line. -/
def Block.indented (margin : Text) (block : Block) : Block :=
  ⟨block.lines.map (margin ++ ·), width margin + block.keyIndent⟩

/-- An indented text without its last newline is the join of the indented lines. -/
theorem dropSuffix_indented {margin : Text} (free : '\n' ∉ margin) (text : Text) :
    splitOn '\n' (dropSuffix ['\n'] (indented margin text)) =
      (splitOn '\n' (dropSuffix ['\n'] text)).map (margin ++ ·) := by
  have pieces : splitOn '\n' (joinWith '\n'
      ((splitOn '\n' (dropSuffix ['\n'] text)).map (margin ++ ·))) =
        (splitOn '\n' (dropSuffix ['\n'] text)).map (margin ++ ·) := by
    refine splitOn_joinWith (by simp [splitOn_ne_nil]) fun piece mem => ?_
    obtain ⟨line, inside, rfl⟩ := List.mem_map.mp mem
    rw [List.mem_append, not_or]
    exact ⟨free, notMem_of_mem_splitOn inside⟩
  by_cases ended : ['\n'] <:+ text
  · rw [indented, if_pos (List.isSuffixOf_iff_suffix.mpr ended), dropSuffix_append, pieces]
  · rw [indented, if_neg (mt List.isSuffixOf_iff_suffix.mp ended), List.append_nil,
      dropSuffix_of_not_suffix, pieces]
    rintro ⟨before, same⟩
    -- the last line would be empty, so there is no margin, and the text itself ends in a newline
    have last : [] ∈ (splitOn '\n' (dropSuffix ['\n'] text)).map (margin ++ ·) := by
      rw [← pieces, ← same, splitOn_concat]
      simp
    obtain ⟨line, _, empty⟩ := List.mem_map.mp last
    obtain ⟨rfl, rfl⟩ := List.append_eq_nil_iff.mp empty
    rw [dropSuffix_of_not_suffix ended] at same
    simp only [List.nil_append, List.map_id', joinWith_splitOn] at same
    exact ended ⟨before, same⟩

theorem textLines_indented {margin : Text} (newline : '\n' ∉ margin) (carriage : '\r' ∉ margin)
    (text : Text) : textLines (indented margin text) = (textLines text).map (margin ++ ·) := by
  rw [textLines, dropSuffix_indented newline, textLines, List.map_map, List.map_map]
  exact List.map_congr_left fun line _ => dropSuffix_singleton_append carriage line

section

variable {margin : Text} (blank : ∀ c ∈ margin, isBlank c = true)
include blank

theorem undecorated_append (line : Text) : undecorated (margin ++ line) = undecorated line := by
  rw [undecorated, undecorated, List.dropWhile_append_of_pos]
  exact fun c mem => by rw [isDecoration, blank c mem, Bool.true_or]

theorem indentWidth_append (line : Text) :
    indentWidth (margin ++ line) = width margin + indentWidth line := by
  rw [indentWidth, List.takeWhile_append_of_pos, width_append, indentWidth]
  exact fun c mem => by rw [isIndentation, blank c mem, Bool.true_or]

theorem ofLine?_append (line : Text) : KeyLine.ofLine? (margin ++ line) = KeyLine.ofLine? line := by
  rw [KeyLine.ofLine?, trimStart_append blank, KeyLine.ofLine?]

theorem isKeyPosition_indented (block : Block) (line : Text) :
    (block.indented margin).isKeyPosition (margin ++ line) = block.isKeyPosition line := by
  rw [Block.isKeyPosition, Block.isKeyPosition, indentWidth_append blank, width_append,
    Block.indented]
  cases line with
  | nil => simp [indentWidth, width]
  | cons c rest => simp

theorem keyLine?_indented (block : Block) (line : Text) :
    (block.indented margin).keyLine? (margin ++ line) = block.keyLine? line := by
  rw [Block.keyLine?, isKeyPosition_indented blank, ofLine?_append blank, Block.keyLine?]

theorem scan_indented (block : Block) :
    (block.indented margin).scan =
      block.scan.map fun line => { line with text := margin ++ line.text } := by
  rw [Block.scan, Block.indented, List.map_map, Block.scan, List.map_map]
  refine List.map_congr_left fun line _ => ?_
  exact congrArg _ (keyLine?_indented blank block line)

theorem addLine_append (reading : Reading) (line : Text) :
    reading.addLine (margin ++ line) = reading.addLine line := by
  rw [Reading.addLine, Reading.addLine]
  simp only [CommentDoc.addLine, CommentDoc.addEntryLine, undecorated_append blank,
    trimStart_append blank]

theorem step_append (onlyKey : Option Text) (reading : Reading) (line : ScannedLine) :
    reading.step onlyKey { line with text := margin ++ line.text } = reading.step onlyKey line := by
  simp only [Reading.step, ofLine?_append blank, addLine_append blank]

theorem foldl_step_indented (onlyKey : Option Text) (reading : Reading) (block : Block) :
    (block.indented margin).scan.foldl (Reading.step onlyKey) reading =
      block.scan.foldl (Reading.step onlyKey) reading := by
  rw [scan_indented blank, List.foldl_map]
  simp only [step_append blank]

theorem ofText?_indented (newline : '\n' ∉ margin) (carriage : '\r' ∉ margin) (text : Text) :
    Block.ofText? (indented margin text) = (Block.ofText? text).map (Block.indented margin) := by
  rw [Block.ofText?, Block.ofText?, textLines_indented newline carriage]
  cases textLines text with
  | nil => rfl
  | cons first rest =>
    simp only [List.map_cons, ofLine?_append blank, indentWidth_append blank]
    cases KeyLine.ofLine? first with
    | none => rfl
    | some key =>
      by_cases remark : isRemarkKey key.key <;> simp [remark, Block.indented]

end

/-- Spaces and tabs in front of every line of a comment change nothing of what it says, whether
the reading is restricted to a key or not. -/
theorem read_indented (margin text : Text) (onlyKey : Option Text)
    (spaces : ∀ c ∈ margin, c = ' ' ∨ c = '\t') :
    read (indented margin text) onlyKey = read text onlyKey := by
  have other {c : Char} (no : c ≠ ' ' ∧ c ≠ '\t') : c ∉ margin := fun mem =>
    (spaces c mem).elim no.1 no.2
  have blank : ∀ c ∈ margin, isBlank c = true := fun c mem =>
    (spaces c mem).elim (fun same => same ▸ by decide) (fun same => same ▸ by decide)
  rw [read, read, ofText?_indented blank (other (by decide)) (other (by decide))]
  cases Block.ofText? text with
  | none => rfl
  | some block => exact congrArg Reading.doc (foldl_step_indented blank _ {} block)

/-- Among the lines are empty ones, one that ends in a carriage return, one with a bar in its
indentation, and a reminder; a newline ends the text. -/
theorem read_indented_mixed :
    let margin := "\t ".toList
    let text := " summary: S\r\n\n |  t\n TODO: x\n   y\n a: N?\n\t z\n\n".toList
    (∀ c ∈ margin, c = ' ' ∨ c = '\t') ∧
      indented margin text =
        "\t  summary: S\r\n\t \n\t  |  t\n\t  TODO: x\n\t    y\n\t  a: N?\n\t \t z\n\t \n".toList ∧
      read (indented margin text) none =
        { summary := "S\n\n|  t".toList,
          entries := ⟨[("a".toList,
            { type := "N?".toList, summary := "z\n".toList, isOptional := true })]⟩ } := by
  intro margin text
  have spaces : ∀ c ∈ margin, c = ' ' ∨ c = '\t' := by simp [margin]
  exact
    ⟨spaces, by decide +kernel, (read_indented margin text none spaces).trans (by decide +kernel)⟩

end CommentDocs.Comment
