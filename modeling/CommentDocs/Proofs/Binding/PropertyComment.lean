import CommentDocs.Binding.Basic
import CommentDocs.Proofs.Comment.KeyLines
import CommentDocs.Proofs.Comment.Restricted

/-!
# The guard of a property's comment and the parser behind it

A comment block belongs to a property when it starts, after blanks, with the property's key and a
colon. Whether the parser then finds an entry of that key is another matter: the parser wants the
key at the start of the first line, made of key characters, and neither a remark nor a reminder.
For every other key the two agree.
-/

namespace CommentDocs.Binding

open Text Comment

variable {key comment : Text}

theorem opensWithKey_iff : opensWithKey key comment = true ↔
    ∃ blanks rest, comment = blanks ++ (key ++ ':' :: rest) ∧ ∀ c ∈ blanks, isBlank c = true := by
  induction comment with
  | nil => simp [opensWithKey]
  | cons c comment ih =>
    rw [opensWithKey, Bool.or_eq_true, Bool.and_eq_true, ih, List.isPrefixOf_iff_prefix]
    constructor
    · rintro (⟨rest, here⟩ | ⟨blank, blanks, rest, rfl, all⟩)
      · exact ⟨[], rest, by simp [← here], by simp⟩
      · exact ⟨c :: blanks, rest, rfl, List.forall_mem_cons.mpr ⟨blank, all⟩⟩
    · rintro ⟨blanks, rest, same, all⟩
      cases blanks with
      | nil => exact .inl ⟨rest, by simp [same]⟩
      | cons d blanks =>
        obtain ⟨rfl, rfl⟩ := List.cons.inj same
        rw [List.forall_mem_cons] at all
        exact .inr ⟨all.1, blanks, rest, rfl, all.2⟩

theorem newline_not_mem_of_isKeyChar (word : ∀ c ∈ key, isKeyChar c = true) : '\n' ∉ key :=
  fun mem => absurd (word _ mem) (by decide)

theorem allKeyChars_sectionName {word : Text} (chars : ∀ c ∈ word, isKeyChar c = true) :
    ∀ c ∈ sectionName word, isKeyChar c = true := by
  rw [sectionName]
  split
  · rename_i value _
    have letters : value.name.all isKeyChar = true := by cases value <;> decide
    exact List.all_eq_true.mp letters
  · exact chars

/-- The first line of a text that starts with a key and a colon is the key line of that key. -/
theorem textLines_key {blanks : Text} (blank : ∀ c ∈ blanks, isBlank c = true) (nonempty : key ≠ [])
    (word : ∀ c ∈ key, isKeyChar c = true) (line : '\n' ∉ blanks) (rest : Text) :
    ∃ first others content, textLines (blanks ++ (key ++ ':' :: rest)) = first :: others ∧
      KeyLine.ofLine? first = some ⟨key, content⟩ := by
  have free : '\n' ∉ blanks ++ key ++ [':'] := by
    simp [line, newline_not_mem_of_isKeyChar word]
  obtain ⟨piece, pieces, found, whole⟩ := splitOn_append_left free (dropSuffix ['\n'] rest)
  have body : '\n' ∉ dropSuffix ['\r'] piece := fun mem => by
    have inside : piece ∈ splitOn '\n' (dropSuffix ['\n'] rest) := found ▸ List.mem_cons_self
    refine notMem_of_mem_splitOn inside ?_
    rw [dropSuffix] at mem
    split at mem
    · exact List.mem_of_mem_take mem
    · exact mem
  have inner : '\n' ∉ trimStart (dropSuffix ['\r'] piece) :=
    mt (fun mem => (List.dropWhile_sublist _).subset mem) body
  refine ⟨_, pieces.map (dropSuffix ['\r']), _, ?_, ofLine?_key blank nonempty word inner⟩
  have regroup (text : Text) :
      blanks ++ (key ++ ':' :: text) = (blanks ++ key ++ [':']) ++ text := by
    simp
  rw [textLines, ← List.append_assoc blanks, dropSuffix_append_cons (by decide), List.append_assoc,
    regroup, whole, List.map_cons, ← regroup, ← List.append_assoc blanks,
    dropSuffix_append_cons (by decide), List.append_assoc]

/-- A text that starts with a blank line is no documentation. -/
theorem ofText?_eq_none_of_newline {blanks : Text} (blank : ∀ c ∈ blanks, isBlank c = true)
    (line : '\n' ∈ blanks) {c : Char} (visible : c ≠ '\n') (first rest : Text) :
    Block.ofText? (blanks ++ (first ++ c :: rest)) = none := by
  obtain ⟨before, after, rfl, free⟩ := List.eq_append_cons_of_mem line
  have lines : textLines ((before ++ '\n' :: after) ++ (first ++ c :: rest)) =
      dropSuffix ['\r'] before ::
        (splitOn '\n' ((after ++ first) ++ c :: dropSuffix ['\n'] rest)).map
          (dropSuffix ['\r']) := by
    have regroup (text : Text) : (before ++ '\n' :: after) ++ (first ++ c :: text) =
        before ++ '\n' :: ((after ++ first) ++ c :: text) := by simp
    rw [textLines, ← List.append_assoc, dropSuffix_append_cons visible, List.append_assoc, regroup,
      splitOn_append _ _ free, List.map_cons]
  have empty : KeyLine.ofLine? (dropSuffix ['\r'] before) = none := by
    have all : ∀ c ∈ dropSuffix ['\r'] before, isBlank c = true := fun c mem => by
      refine blank c (List.mem_append_left _ ?_)
      rw [dropSuffix] at mem
      split at mem
      · exact List.mem_of_mem_take mem
      · exact mem
    refine Option.eq_none_iff_forall_ne_some.mpr fun key found => ?_
    exact ne_colon_of_isBlank (all _ (colon_mem_of_ofLine? found)) rfl
  rw [Block.ofText?, lines]
  simp only [empty]

/-- A key that the parser takes for the name of an entry: made of key characters, and neither a
remark nor a reminder. -/
def IsEntryKey (key : Text) : Prop :=
  (∀ c ∈ key, isKeyChar c = true) ∧ isRemarkKey key = false ∧ isReminder key = false

/-- A reading restricted to a key adds to it the passages that are known by it, and no reminder. -/
theorem target?_only_self {passage : Passage} : passage.target? (some key) = some (.entry key) ↔
    isReminder key = false ∧ sectionName passage.key.key = key := by
  rw [Passage.target?]
  by_cases known : sectionName passage.key.key = key
  · subst known
    cases isReminder (sectionName passage.key.key) <;> simp
  · cases isReminder (sectionName passage.key.key) <;> simp [known]

theorem contains_read_iff_passage {block : Block} (found : Block.ofText? comment = some block)
    (nonempty : key ≠ []) : (read comment (some key)).entries.contains key = true ↔
      ∃ passage ∈ passages block.scan,
        isReminder key = false ∧ sectionName passage.key.key = key := by
  have kept : (some key).filter (fun name : Text => decide (name ≠ [])) = some key := by
    simp [Option.filter, nonempty]
  have names (ps : List Passage) :
      (CommentDoc.ofPassages (some key) ps).entries.names = entryNames (some key) ps := by
    simp [CommentDoc.ofPassages, Table.tabulate, Table.names, Function.comp_def]
  rw [Table.contains_iff_mem_names, read_eq_ofPassages found, kept, names, mem_entryNames, feeding,
    Ne, List.filter_eq_nil_iff]
  simp [target?_only_self]

/-- A word is known by its own spelling, unless it is the second spelling of a key. -/
theorem sectionName_self (single : key ≠ "example".toList) : sectionName key = key := by
  have spelled {value : ValueKey} (h : ValueKey.ofWord? key = some value) : value.name = key := by
    unfold ValueKey.ofWord? at h
    split_ifs at h with summary description tags returns examples
    all_goals obtain rfl := Option.some.inj h
    · exact summary.symm
    · exact description.symm
    · exact tags.symm
    · exact returns.symm
    · rw [Bool.or_eq_true, decide_eq_true_iff, decide_eq_true_iff] at examples
      exact (examples.resolve_left single).symm
  rw [sectionName]
  split
  · exact spelled ‹_›
  · rfl

/-- Whenever the guard of a property's comment accepts the text, reading the text for the property's
name gives an entry of that name if and only if the name can be the name of an entry and stands in
the first line of the text. -/
theorem contains_read_iff_of_accepted (named : key ≠ []) (single : key ≠ "example".toList)
    (accepted : opensWithKey key comment = true) :
    (read comment (some key)).entries.contains key = true ↔
      IsEntryKey key ∧ '\n' ∉ comment.takeWhile isBlank := by
  obtain ⟨blanks, rest, rfl, blank⟩ := opensWithKey_iff.mp accepted
  -- in each direction the name is made of key characters, so the blanks end where it starts
  have front (word : ∀ c ∈ key, isKeyChar c = true) :
      (blanks ++ (key ++ ':' :: rest)).takeWhile isBlank = blanks :=
    takeWhile_isBlank_append blank named word _
  constructor
  · intro contained
    cases found : Block.ofText? (blanks ++ (key ++ ':' :: rest)) with
    | none =>
      simp only [Comment.read, found] at contained
      exact absurd contained (by simp [Table.contains, Table.get?, Table.find?])
    | some block =>
      obtain ⟨passage, mem, plain, known⟩ := (contains_read_iff_passage found named).mp contained
      have keyLine := Block.ofLine?_of_mem_scan (exists_line_of_mem_passages mem) rfl
      have word : ∀ c ∈ key, isKeyChar c = true :=
        known ▸ allKeyChars_sectionName (allKeyChars_of_ofLine? keyLine)
      have line : '\n' ∉ blanks := fun mem => by
        rw [ofText?_eq_none_of_newline blank mem (by decide)] at found
        cases found
      obtain ⟨first, others, content, lines, opening⟩ := textLines_key blank named word line rest
      have remark : isRemarkKey key = false := by
        simp only [Block.ofText?, lines, opening] at found
        split at found
        · cases found
        · exact Bool.eq_false_iff.mpr ‹_›
      exact ⟨⟨word, remark, plain⟩, by rwa [front word]⟩
  · rintro ⟨⟨word, remark, plain⟩, line⟩
    rw [front word] at line
    obtain ⟨first, others, content, lines, opening⟩ := textLines_key blank named word line rest
    have found : Block.ofText? (blanks ++ (key ++ ':' :: rest)) =
        some ⟨first :: others, indentWidth first⟩ := by
      simp [Block.ofText?, lines, opening, remark]
    have scanned : (⟨first :: others, indentWidth first⟩ : Block).keyLine? first =
        some ⟨key, content⟩ := by
      rw [Block.keyLine?, Block.isKeyPosition_of_ofLine? _ opening, if_pos rfl, opening]
    have opened : ∃ passage ∈ passages (Block.scan ⟨first :: others, indentWidth first⟩),
        passage.key = ⟨key, content⟩ := by
      rw [Block.scan, List.map_cons, scanned]
      exact ⟨_, List.mem_cons_self, rfl⟩
    obtain ⟨passage, mem, own⟩ := opened
    exact (contains_read_iff_passage found named).mpr
      ⟨passage, mem, plain, own ▸ sectionName_self single⟩

/-- A key of a property may also be a key of the value itself, and the text may go on. -/
theorem contains_read_iff_of_accepted_summary :
    "summary".toList ≠ [] ∧ "summary".toList ≠ "example".toList ∧
      opensWithKey "summary".toList "\t summary: Text\n\t  short".toList = true ∧
      (read "\t summary: Text\n\t  short".toList (some "summary".toList)).entries.contains
        "summary".toList = true := by
  have accepted : opensWithKey "summary".toList "\t summary: Text\n\t  short".toList = true := by
    decide +kernel
  refine ⟨by decide, by decide, accepted, ?_⟩
  have entryKey : IsEntryKey "summary".toList :=
    ⟨List.all_eq_true.mp (by decide), by decide, by decide⟩
  exact (contains_read_iff_of_accepted (by decide) (by decide) accepted).mpr
    ⟨entryKey, by decide +kernel⟩

/-- The guard accepts the comment of a property that is called like the mark of a remark, but the
parser takes the comment for a remark. -/
theorem remark_accepted_without_entry :
    ¬ ∀ key comment : Text, key ≠ [] → opensWithKey key comment = true →
      (read comment (some key)).entries.contains key = true := by
  intro agree
  exact absurd (agree "note".toList " note: String".toList (by decide) (by decide +kernel))
    (by decide +kernel)

end CommentDocs.Binding
