import CommentDocs.Proofs.Comment.Passage

/-!
# Key lines

A line has the shape of a key line when a word stands before its first colon, with nothing but
blanks in front of it. The word and the colon leave no choice where to cut, so the key and the
content of a line are determined, and a line that is put together from a key and a content reads as
them. Within a comment the column counts too; the other tests of a key position never reject a line
of that shape.
-/

namespace CommentDocs.Comment

open Text

/-- A line that is cut into the indentation, a key, the colon behind it, and the rest. -/
structure IsKeyed (line indentation key rest : Text) : Prop where
  spelled : line = indentation ++ (key ++ ':' :: rest)
  blank : ∀ c ∈ indentation, isBlank c = true
  nonempty : key ≠ []
  word : ∀ c ∈ key, isBlank c = false ∧ c ≠ ':'

theorem isKeyChar_iff {c : Char} : isKeyChar c = true ↔ isBlank c = false ∧ c ≠ ':' := by
  simp [isKeyChar, and_comm]

theorem ne_colon_of_isBlank {c : Char} (blank : isBlank c = true) : c ≠ ':' := by
  rintro rfl
  exact absurd blank (by decide)

theorem isBlank_of_isKeyChar {c : Char} (word : isKeyChar c = true) : isBlank c = false :=
  (isKeyChar_iff.mp word).1

variable {line key rest content : Text}

/-- Blanks in front of a word are all of the blanks. -/
theorem takeWhile_isBlank_append {blanks : Text} (blank : ∀ c ∈ blanks, isBlank c = true)
    (nonempty : key ≠ []) (word : ∀ c ∈ key, isKeyChar c = true) (rest : Text) :
    (blanks ++ (key ++ rest)).takeWhile isBlank = blanks := by
  obtain ⟨c, key, rfl⟩ := List.exists_cons_of_ne_nil nonempty
  have visible := isBlank_of_isKeyChar (word c List.mem_cons_self)
  simp [List.takeWhile_append_of_pos blank, visible]

/-- A line that starts with a key and a colon is the key line of that key. -/
theorem ofLine?_key {blanks : Text} (blank : ∀ c ∈ blanks, isBlank c = true) (nonempty : key ≠ [])
    (word : ∀ c ∈ key, isKeyChar c = true) {body : Text} (line : '\n' ∉ trimStart body) :
    KeyLine.ofLine? (blanks ++ (key ++ ':' :: body)) = some ⟨key, trimStart body⟩ := by
  obtain ⟨c, key, rfl⟩ := List.exists_cons_of_ne_nil nonempty
  have visible := isBlank_of_isKeyChar (word c List.mem_cons_self)
  have single : singleLine? (trimStart body) = some (trimStart body) := by
    rw [singleLine?, splitOn_of_notMem line]
  have colon : isKeyChar ':' = false := by decide
  rw [KeyLine.ofLine?, trimStart_append blank, trimStart, List.cons_append,
    List.dropWhile_cons_of_neg (by simp [visible]), ← List.cons_append,
    List.takeWhile_append_of_pos word, List.dropWhile_append_of_pos word]
  simp [colon, single]

/-- A line that is read as a key line is cut at the key. -/
theorem exists_isKeyed_of_ofLine? {found : KeyLine} (read : KeyLine.ofLine? line = some found) :
    ∃ indentation rest, IsKeyed line indentation found.key rest ∧
      singleLine? (trimStart rest) = some found.content := by
  obtain ⟨indentation, cut, blank⟩ := exists_blanks line
  rw [KeyLine.ofLine?] at read
  split at read
  · rename_i c key body before after
    obtain ⟨content, single, rfl⟩ := Option.map_eq_some_iff.mp read
    refine ⟨indentation, body, ⟨?_, blank, List.cons_ne_nil c key, fun d mem => ?_⟩, single⟩
    · rw [← before, ← after, List.takeWhile_append_dropWhile, ← cut]
    · exact isKeyChar_iff.mp (List.mem_takeWhile_imp (before ▸ mem))
  · cases read

theorem allKeyChars_of_ofLine? {found : KeyLine} (read : KeyLine.ofLine? line = some found) :
    ∀ c ∈ found.key, isKeyChar c = true := by
  obtain ⟨_, _, keyed, -⟩ := exists_isKeyed_of_ofLine? read
  exact fun c mem => isKeyChar_iff.mpr (keyed.word c mem)

namespace IsKeyed

variable {indentation : Text} (keyed : IsKeyed line indentation key rest)
include keyed

theorem chars : ∀ c ∈ key, isKeyChar c = true := fun c mem =>
  isKeyChar_iff.mpr (keyed.word c mem)

theorem ofLine? (single : '\n' ∉ trimStart rest) :
    KeyLine.ofLine? line = some ⟨key, trimStart rest⟩ := by
  rw [keyed.spelled]
  exact ofLine?_key keyed.blank keyed.nonempty keyed.chars single

theorem takeWhile_isBlank : line.takeWhile isBlank = indentation := by
  rw [keyed.spelled]
  exact takeWhile_isBlank_append keyed.blank keyed.nonempty keyed.chars _

/-- The key is all of the word behind the indentation. -/
theorem takeWhile_isKeyChar : (line.drop indentation.length).takeWhile isKeyChar = key := by
  have colon : isKeyChar ':' = false := by decide
  rw [keyed.spelled, List.drop_left, List.takeWhile_append_of_pos keyed.chars]
  simp [colon]

/-- There is one place to cut a line. -/
theorem unique {indentation' key' rest' : Text} (other : IsKeyed line indentation' key' rest') :
    indentation = indentation' ∧ key = key' ∧ rest = rest' := by
  obtain rfl : indentation = indentation' :=
    keyed.takeWhile_isBlank.symm.trans other.takeWhile_isBlank
  obtain rfl : key = key' := keyed.takeWhile_isKeyChar.symm.trans other.takeWhile_isKeyChar
  refine ⟨rfl, rfl, ?_⟩
  simpa using keyed.spelled.symm.trans other.spelled

end IsKeyed

/-- On one line, the cut at the key is all that the reading of a key line depends on. -/
theorem ofLine?_eq_some_iff (single : '\n' ∉ line) : KeyLine.ofLine? line = some ⟨key, content⟩ ↔
    ∃ indentation rest, IsKeyed line indentation key rest ∧ content = trimStart rest := by
  have inner {indentation rest : Text} (keyed : IsKeyed line indentation key rest) :
      '\n' ∉ trimStart rest := fun mem => by
    rw [keyed.spelled] at single
    refine single (List.mem_append_right _ (List.mem_append_right _ (List.mem_cons_of_mem _ ?_)))
    exact (List.dropWhile_sublist _).subset mem
  constructor
  · intro read
    obtain ⟨indentation, rest, keyed, found⟩ := exists_isKeyed_of_ofLine? read
    refine ⟨indentation, rest, keyed, ?_⟩
    rw [singleLine?, splitOn_of_notMem (inner keyed)] at found
    exact (Option.some.inj found).symm
  · rintro ⟨indentation, rest, keyed, rfl⟩
    exact keyed.ofLine? (inner keyed)

/-- The lines of a documentation comment are scanned one by one. The first one is a key line, and a
later one is a key line if and only if it has the same indentation and the shape of one. -/
theorem Block.scan_of_ofText? {text : Text} {block : Block}
    (found : Block.ofText? text = some block) :
    block.scan.map (·.text) = textLines text ∧
      ∃ first rest, block.scan = first :: rest ∧
        (∃ key, first.keyLine = some key ∧ KeyLine.ofLine? first.text = some key) ∧
        ∀ line ∈ rest, ∀ key, line.keyLine = some key ↔
          indentWidth line.text = indentWidth first.text ∧
            KeyLine.ofLine? line.text = some key := by
  obtain ⟨first, rest, key, lines, rfl, read⟩ := exists_first_of_ofText? found
  refine ⟨by simp [Block.scan, lines, Function.comp_def], _, _, List.map_cons, ?_, ?_⟩
  · exact ⟨key, keyLine?_eq_some_iff.mpr ⟨rfl, read⟩, read⟩
  · intro line mem other
    obtain ⟨text, _, rfl⟩ := List.mem_map.mp mem
    exact keyLine?_eq_some_iff

/-- A line without a newline is a key line if and only if it can be cut into blanks, a word without
a colon, a colon and a rest; the content is the rest without the blanks at its start. There is at
most one such cut, so a line that is put together from a key and a content is read as them, whatever
the blanks around the key. In a documentation comment every line is scanned once, as it is; the
first line is a key line, and a later line is a key line if and only if it has the indentation of
the first and the shape of a key line. -/
theorem keyLines_by_shape_and_column :
    (∀ line key content : Text, '\n' ∉ line →
        (KeyLine.ofLine? line = some ⟨key, content⟩ ↔
          ∃ indentation rest, IsKeyed line indentation key rest ∧ content = trimStart rest)) ∧
      (∀ line indentation key rest indentation' key' rest' : Text,
        IsKeyed line indentation key rest → IsKeyed line indentation' key' rest' →
          indentation = indentation' ∧ key = key' ∧ rest = rest') ∧
      (∀ indentation key blanks content : Text, (∀ c ∈ indentation, isBlank c = true) →
        key ≠ [] → (∀ c ∈ key, isBlank c = false ∧ c ≠ ':') → (∀ c ∈ blanks, isBlank c = true) →
          (∀ c ∈ content.head?, isBlank c = false) → '\n' ∉ content →
            KeyLine.ofLine? (indentation ++ (key ++ ':' :: (blanks ++ content))) =
              some ⟨key, content⟩) ∧
      ∀ (text : Text) (block : Block), Block.ofText? text = some block →
        block.scan.map (·.text) = textLines text ∧
          ∃ first rest, block.scan = first :: rest ∧
            (∃ key, first.keyLine = some key ∧ KeyLine.ofLine? first.text = some key) ∧
            ∀ line ∈ rest, ∀ key, line.keyLine = some key ↔
              indentWidth line.text = indentWidth first.text ∧
                KeyLine.ofLine? line.text = some key := by
  refine ⟨fun _ _ _ single => ofLine?_eq_some_iff single, fun _ _ _ _ _ _ _ keyed => keyed.unique,
    ?_, fun _ _ => Block.scan_of_ofText?⟩
  intro indentation key blanks content before nonempty word blank visible single
  have kept : trimStart (blanks ++ content) = content := trimStart_append_of_visible blank visible
  have keyed : IsKeyed _ indentation key (blanks ++ content) := ⟨rfl, before, nonempty, word⟩
  rw [keyed.ofLine? (by rwa [kept]), kept]

/-- A key after a bar, a key at the same column behind blanks, and a line of that shape at another
column. -/
theorem keyLines_by_shape_and_column_barred :
    let text := "\t|a: N\n   b:  c\n    d: e".toList
    let block : Block := ⟨["\t|a: N".toList, "   b:  c".toList, "    d: e".toList], 3⟩
    ('\n' ∉ "\t|a: N".toList ∧ IsKeyed "\t|a: N".toList "\t".toList "|a".toList " N".toList ∧
        KeyLine.ofLine? "\t|a: N".toList = some ⟨"|a".toList, "N".toList⟩) ∧
      KeyLine.ofLine? "   b:  c".toList = some ⟨"b".toList, "c".toList⟩ ∧
      Block.ofText? text = some block ∧ block.scan.map (·.text) = block.lines ∧
        ∃ first rest, block.scan = first :: rest ∧
          (∃ key, first.keyLine = some key ∧ KeyLine.ofLine? first.text = some key) ∧
          ∀ line ∈ rest, ∀ key, line.keyLine = some key ↔
            indentWidth line.text = indentWidth first.text ∧
              KeyLine.ofLine? line.text = some key := by
  intro text block
  obtain ⟨shape, -, composed, scanned⟩ := keyLines_by_shape_and_column
  have single : '\n' ∉ "\t|a: N".toList := by decide
  have word (key : Text) (all : key.all isKeyChar = true) :
      ∀ c ∈ key, isBlank c = false ∧ c ≠ ':' :=
    fun c mem => isKeyChar_iff.mp (List.all_eq_true.mp all c mem)
  have keyed : IsKeyed "\t|a: N".toList "\t".toList "|a".toList " N".toList :=
    ⟨rfl, List.all_eq_true.mp (by decide), by decide, word _ (by decide)⟩
  have found : Block.ofText? text = some block := by decide +kernel
  obtain ⟨lines, others⟩ := scanned text block found
  exact ⟨⟨single, keyed, (shape _ _ _ single).mpr ⟨_, _, keyed, by decide⟩⟩,
    composed "   ".toList "b".toList "  ".toList "c".toList (List.all_eq_true.mp (by decide))
      (by decide) (word _ (by decide)) (List.all_eq_true.mp (by decide)) (by simp; decide)
      (by decide),
    found, lines.trans (by decide +kernel), others⟩

end CommentDocs.Comment
