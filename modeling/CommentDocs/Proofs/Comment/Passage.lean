import CommentDocs.Comment.Reading
import Mathlib.Data.List.TakeWhile

/-!
# The passages of a comment, and what each field takes from them

The lines of a comment are cut into passages, each a key line with the lines that continue
it. What a comment says can then be stated without a running state: every field collects
the lines of the passages under its own key, in their order.

`scanned_passages` says that the cut of a documentation comment loses no line, because its
first line is always a key line.
-/

namespace CommentDocs.Comment

open Text

/-- A key line, as it was scanned, with the lines that continue it. -/
structure Passage where
  opening : Text
  key : KeyLine
  body : List Text
  deriving DecidableEq, Repr

/-- The lines up to the next key line. -/
def continuation (lines : List ScannedLine) : List Text :=
  (lines.takeWhile fun line => line.keyLine.isNone).map (·.text)

/-- The passages of a list of lines. Lines before the first key line belong to none. -/
def passages : List ScannedLine → List Passage
  | [] => []
  | line :: rest =>
    match line.keyLine with
    | some key => ⟨line.text, key, continuation rest⟩ :: passages rest
    | none => passages rest

/-- Lines joined by newlines, without the empty ones at the start. -/
def joined (lines : List Text) : Text :=
  joinWith '\n' (lines.dropWhile (·.isEmpty))

namespace Passage

def lines (passage : Passage) : List Text :=
  passage.opening :: passage.body

def scanned (passage : Passage) : List ScannedLine :=
  ⟨passage.opening, some passage.key⟩ :: passage.body.map (⟨·, none⟩)

/-- What a passage is added to. A reminder is added to nothing, and in a reading that is
restricted to one key only the passages of that key count, each as an entry. -/
def target? (onlyKey : Option Text) (passage : Passage) : Option Section :=
  let name := sectionName passage.key.key
  if isReminder name then none
  else
    match onlyKey, ValueKey.ofWord? passage.key.key with
    | some only, _ => if name = only then some (.entry name) else none
    | none, some key => some (.value key)
    | none, none => some (.entry name)

def entryName? (onlyKey : Option Text) (passage : Passage) : Option Text :=
  match passage.target? onlyKey with
  | some (.entry name) => some name
  | _ => none

/-- The lines that a passage adds to the value itself. -/
def valueLines (passage : Passage) : List Text :=
  (passage.key.content :: passage.body).map undecorated

/-- The type at the start of the key line's content and the prose after it. -/
def leading? (passage : Passage) : Option (Text × Text) :=
  TypeExpr.leadingType? passage.key.content

/-- The lines that a passage adds to the return value: the prose after the type, or the
whole content when it does not start with a type. -/
def proseLines (passage : Passage) : List Text :=
  (((passage.leading?.map (·.2)).getD passage.key.content) :: passage.body).map undecorated

/-- The inline tags of a key line that starts with a type. -/
def returnTags (passage : Passage) : List Text :=
  if passage.leading?.isSome then TypeExpr.inlineTags passage.key.content else []

/-- The type of a key line that is nothing but a type. -/
def type? (passage : Passage) : Option Text :=
  TypeExpr.wholeType? passage.key.content

end Passage

/-- The passages that are added to a section. -/
def feeding (onlyKey : Option Text) (target : Section) (ps : List Passage) : List Passage :=
  ps.filter fun passage => passage.target? onlyKey = some target

/-- The names of all entries, in the order of their first passages. -/
def entryNames (onlyKey : Option Text) (ps : List Passage) : List Text :=
  (ps.filterMap (·.entryName? onlyKey)).eraseDups

/-- The documentation of a return value by the passages under its key. -/
def ReturnDoc.ofPassages (ps : List Passage) : ReturnDoc where
  type := ((ps.filterMap Passage.leading?).getLast?.map (·.1)).getD []
  summary := joined (ps.flatMap Passage.proseLines)
  tags := ps.flatMap Passage.returnTags

/-- The documentation of a parameter or property by the passages under its name. -/
def EntryDoc.ofPassages (ps : List Passage) : EntryDoc where
  type := (ps.filterMap Passage.type?).getLast?.getD []
  summary := joined (ps.flatMap fun passage => passage.body.map trimStart)
  tags := ps.flatMap fun passage => TypeExpr.inlineTags passage.key.content
  isOptional := ((ps.filterMap Passage.type?).getLast?.map TypeExpr.isOptional).getD false

/-- What the passages of a comment say, field by field. -/
def CommentDoc.ofPassages (onlyKey : Option Text) (ps : List Passage) : CommentDoc where
  summary := joined ((feeding onlyKey (.value .summary) ps).flatMap Passage.valueLines)
  description := joined ((feeding onlyKey (.value .description) ps).flatMap Passage.valueLines)
  tags := ((feeding onlyKey (.value .tags) ps).flatMap Passage.valueLines).flatMap words
  examples := (feeding onlyKey (.value .examples) ps).map fun passage => joined passage.valueLines
  returns := .ofPassages (feeding onlyKey (.value .returns) ps)
  entries := .tabulate (entryNames onlyKey ps) fun name =>
    .ofPassages (feeding onlyKey (.entry name) ps)

theorem flatMap_scanned_passages (lines : List ScannedLine) :
    (lines.takeWhile fun line => line.keyLine.isNone) ++
      (passages lines).flatMap Passage.scanned = lines := by
  induction lines with
  | nil => rfl
  | cons line rest ih =>
    obtain ⟨text, keyLine⟩ := line
    cases keyLine with
    | none => simpa [passages] using ih
    | some key =>
      have bare : ∀ line ∈ rest.takeWhile (·.keyLine.isNone),
          (⟨line.text, none⟩ : ScannedLine) = line := by
        intro line mem
        have bare := List.mem_takeWhile_imp mem
        rw [← Option.isNone_iff_eq_none.mp bare]
      have body : (continuation rest).map (fun text => (⟨text, none⟩ : ScannedLine)) =
          rest.takeWhile (·.keyLine.isNone) := by
        rw [continuation, List.map_map]
        exact (List.map_congr_left bare).trans (List.map_id _)
      simp only [passages, List.flatMap_cons, Passage.scanned, body, List.takeWhile_cons,
        Option.isNone_some, Bool.false_eq_true, if_false, List.nil_append, List.cons_append]
      rw [ih]

/-- Lines that start with a key line are the lines of their passages. -/
theorem flatMap_scanned_of_head {line : ScannedLine} {rest : List ScannedLine}
    (key : line.keyLine.isSome) :
    (passages (line :: rest)).flatMap Passage.scanned = line :: rest := by
  have none : (line :: rest).takeWhile (fun line => line.keyLine.isNone) = [] :=
    List.takeWhile_cons_of_neg
      (by simp [Option.isNone_iff_eq_none, Option.isSome_iff_ne_none.mp key])
  have cut := flatMap_scanned_passages (line :: rest)
  rwa [none, List.nil_append] at cut

/-- The key of a passage is the key of one of the lines that were cut. -/
theorem exists_line_of_mem_passages {lines : List ScannedLine} {passage : Passage}
    (mem : passage ∈ passages lines) :
    ⟨passage.opening, some passage.key⟩ ∈ lines := by
  induction lines with
  | nil => simp [passages] at mem
  | cons line rest ih =>
    obtain ⟨text, keyLine⟩ := line
    cases keyLine with
    | none => exact List.mem_cons_of_mem _ (ih mem)
    | some key =>
      rcases List.mem_cons.mp mem with rfl | later
      · exact List.mem_cons_self
      · exact List.mem_cons_of_mem _ (ih later)

theorem colon_mem_of_ofLine? {line : Text} {key : KeyLine} (h : KeyLine.ofLine? line = some key) :
    ':' ∈ line := by
  simp only [KeyLine.ofLine?] at h
  split at h
  · rename_i c rest body _ after
    have colon : ':' ∈ (trimStart line).dropWhile isKeyChar := after ▸ List.mem_cons_self
    exact (List.dropWhile_sublist _).subset ((List.dropWhile_sublist _).subset colon)
  · cases h

theorem width_append (a b : Text) : width (a ++ b) = width a + width b := by
  induction a with
  | nil => simp [width]
  | cons c rest ih => simp [width, ih, Nat.add_assoc]

/-- A line with a character that is no indentation is wider than its indentation. -/
theorem indentWidth_lt_width {line : Text} {c : Char} (mem : c ∈ line)
    (text : isIndentation c = false) : indentWidth line < width line := by
  have split := List.takeWhile_append_dropWhile (p := isIndentation) (l := line)
  have rest : line.dropWhile isIndentation ≠ [] := by
    intro empty
    rw [empty, List.append_nil] at split
    have all := List.mem_takeWhile_imp (split ▸ mem)
    simp [text] at all
  obtain ⟨d, tail, found⟩ := List.exists_cons_of_ne_nil rest
  have wide : 0 < width (line.dropWhile isIndentation) := by
    rw [found, width, columns]
    split <;> omega
  calc indentWidth line < indentWidth line + width (line.dropWhile isIndentation) := by omega
    _ = width line := by rw [indentWidth, ← width_append, split]

/-- A key at the start of a line stands at that line's own column. -/
theorem Block.isKeyPosition_of_ofLine? {line : Text} {key : KeyLine} (lines : List Text)
    (h : KeyLine.ofLine? line = some key) :
    Block.isKeyPosition ⟨lines, indentWidth line⟩ line = true := by
  have colon := colon_mem_of_ofLine? h
  have nonempty : line ≠ [] := List.ne_nil_of_mem colon
  have wide := indentWidth_lt_width colon (by decide)
  simp [Block.isKeyPosition, nonempty, Nat.ne_of_gt wide]

/-- Of a line that is read as a key line only the column matters. -/
theorem Block.keyLine?_eq_some_iff {block : Block} {line : Text} {key : KeyLine} :
    block.keyLine? line = some key ↔
      indentWidth line = block.keyIndent ∧ KeyLine.ofLine? line = some key := by
  rw [Block.keyLine?]
  constructor
  · intro scanned
    split at scanned
    · rename_i position
      simp only [Block.isKeyPosition, Bool.and_eq_true, decide_eq_true_eq] at position
      exact ⟨position.1.2, scanned⟩
    · cases scanned
  · rintro ⟨column, read⟩
    have position := Block.isKeyPosition_of_ofLine? block.lines read
    rw [column] at position
    rw [if_pos position, read]

/-- A scanned line that is a key line is read as that key line. -/
theorem Block.ofLine?_of_mem_scan {block : Block} {line : ScannedLine} {key : KeyLine}
    (mem : line ∈ block.scan) (h : line.keyLine = some key) :
    KeyLine.ofLine? line.text = some key := by
  obtain ⟨text, _, rfl⟩ := List.mem_map.mp mem
  exact (Block.keyLine?_eq_some_iff.mp h).2

/-- A comment is documentation by its first line, which fixes the column of all keys. -/
theorem Block.exists_first_of_ofText? {text : Text} {block : Block}
    (h : Block.ofText? text = some block) : ∃ first rest key,
      textLines text = first :: rest ∧ block = ⟨first :: rest, indentWidth first⟩ ∧
        KeyLine.ofLine? first = some key := by
  unfold Block.ofText? at h
  split at h
  · cases h
  · rename_i first rest lines
    split at h
    · rename_i key found
      split at h
      · cases h
      · exact ⟨first, rest, key, lines, (Option.some.inj h).symm, found⟩
    · cases h

/-- The first line of a documentation comment is a key line. -/
theorem Block.exists_scan_eq_cons {text : Text} {block : Block}
    (h : Block.ofText? text = some block) :
    ∃ line rest, block.scan = line :: rest ∧ line.keyLine.isSome := by
  obtain ⟨first, rest, key, -, rfl, found⟩ := Block.exists_first_of_ofText? h
  have opened : Block.keyLine? ⟨first :: rest, indentWidth first⟩ first = some key :=
    Block.keyLine?_eq_some_iff.mpr ⟨rfl, found⟩
  exact ⟨_, _, rfl, Option.isSome_of_eq_some opened⟩

/-- The passages of a documentation comment hold all of its lines, in order. -/
theorem scanned_passages {text : Text} {block : Block} (h : Block.ofText? text = some block) :
    (passages block.scan).flatMap Passage.scanned = block.scan := by
  obtain ⟨line, rest, found, key⟩ := Block.exists_scan_eq_cons h
  rw [found]
  exact flatMap_scanned_of_head key

theorem Passage.map_text_scanned (passage : Passage) :
    passage.scanned.map (·.text) = passage.lines := by
  simp [Passage.scanned, Passage.lines, Function.comp_def]

theorem lines_passages {text : Text} {block : Block} (h : Block.ofText? text = some block) :
    (passages block.scan).flatMap Passage.lines = block.lines := by
  have texts := congrArg (List.map (·.text)) (scanned_passages h)
  rw [List.map_flatMap] at texts
  simpa [Passage.map_text_scanned, Block.scan, Function.comp_def] using texts

end CommentDocs.Comment
