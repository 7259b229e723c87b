import CommentDocs.Proofs.Toml.Strings
import CommentDocs.Toml.Reader

/-!
# Written lines are read one after another

A text of whole lines takes the document that has been read so far to another one, whatever follows
the text. Such steps are put together in sequence, and what a text takes the empty document to is
what the text is read as. Each kind of written line is such a step.
-/

namespace CommentDocs.Toml

open Text

theorem plainNewlines_of_notMem {text : Text} (plain : '\r' ∉ text) :
    plainNewlines text = text := by
  fun_induction plainNewlines text with
  | case1 rest ih => exact absurd List.mem_cons_self plain
  | case2 c rest _ ih => rw [ih fun mem => plain (List.mem_cons_of_mem _ mem)]
  | case3 => rfl

theorem IsPrintable.notMem {text : Text} (printable : IsPrintable text) {c : Char}
    (forbidden : isForbidden c = true) : c ∉ text := by
  intro mem
  rw [printable c mem] at forbidden
  cases forbidden

namespace Document

/-- Reading a text of whole lines takes a document to another one, whatever follows. -/
structure Reads (document : Document) (text : Text) (final : Document) : Prop where
  plain : '\r' ∉ text
  lines : ∃ count ≤ text.length, ∀ fuel rest,
    readLines (fuel + count) document (text ++ rest) = readLines fuel final rest

variable {document middle final : Document} {text first second : Text}

theorem Reads.refl (document : Document) : Reads document [] document :=
  ⟨List.not_mem_nil, 0, Nat.zero_le _, fun _ _ => rfl⟩

theorem Reads.append (left : Reads document first middle) (right : Reads middle second final) :
    Reads document (first ++ second) final := by
  obtain ⟨plain, count, few, steps⟩ := left
  obtain ⟨plain', count', few', steps'⟩ := right
  refine ⟨fun mem => (List.mem_append.mp mem).elim plain plain', count' + count, ?_,
    fun fuel rest => ?_⟩
  · rw [List.length_append]
    omega
  · rw [List.append_assoc, ← Nat.add_assoc, steps, steps']

theorem readLines_nil (fuel : Nat) (document : Document) :
    readLines (fuel + 1) document [] = .ok document := rfl

/-- What a text takes the empty document to is what the text is read as. -/
theorem Reads.read_eq (reads : Reads {} text final) :
    Toml.read text = .ok (Draft.entriesToData final.entries) := by
  obtain ⟨plain, count, few, steps⟩ := reads
  have whole := steps (text.length - count + 1) []
  rw [List.append_nil, readLines_nil, show text.length - count + 1 + count =
    text.length + 1 by omega] at whole
  rw [Toml.read, plainNewlines_of_notMem plain, whole]
  rfl

/-- A line with a statement on it is read as its statement. -/
theorem reads_line {line : Text} (printable : IsPrintable line)
    (statement : ∀ rest, ∃ after,
      document.readStatement (skipSpaces (line ++ '\n' :: rest)) = .ok (final, after) ∧
        skipComment? (skipSpaces after) = some ('\n' :: rest)) :
    Reads document (line ++ ['\n']) final := by
  refine ⟨?_, 1, by simp, fun fuel rest => ?_⟩
  · have carriage : isForbidden '\r' = true := by decide
    simpa using printable.notMem carriage
  · obtain ⟨after, found, ends⟩ := statement rest
    rw [List.append_assoc, List.singleton_append, readLines, found]
    dsimp only
    rw [ends]
    rfl

theorem reads_blank (document : Document) : Reads document ['\n'] document := by
  have empty : IsPrintable [] := by decide
  exact reads_line empty fun rest => ⟨'\n' :: rest, rfl, rfl⟩

theorem skipComment?_comment {text : Text} (printable : IsPrintable text) (rest : Text) :
    skipComment? ('#' :: (text ++ '\n' :: rest)) = some ('\n' :: rest) := by
  have newline : isForbidden '\n' = true := by decide
  have inside : ∀ c ∈ text, decide (c ≠ '\n') = true := fun c mem =>
    decide_eq_true (ne_of_mem_of_not_mem mem (printable.notMem newline))
  have allowed : text.any isForbidden = false := by
    rw [List.any_eq_false]
    exact fun c mem => by rw [printable c mem]; exact Bool.false_ne_true
  rw [skipComment?, List.takeWhile_append_of_pos inside, List.dropWhile_append_of_pos inside]
  simp [allowed]

theorem reads_comment (document : Document) {text : Text} (printable : IsPrintable text) :
    Reads document (commentLine text) document := by
  have mark : IsPrintable "# ".toList := by decide
  have blank : IsPrintable [' '] := by decide
  refine reads_line (mark.append printable) fun rest =>
    ⟨'#' :: ' ' :: (text ++ '\n' :: rest), rfl, ?_⟩
  exact skipComment?_comment (blank.append printable) rest

theorem readValue_basicString (fuel : Nat) (value rest : Text) :
    readValue (fuel + 1) 0 (basicString value ++ '\n' :: rest) =
      .ok (.text value, '\n' :: rest) := by
  have string : string? (basicString value ++ '\n' :: rest) = some (value, '\n' :: rest) :=
    string?_basicString value (by simp)
  have opened : basicString value ++ '\n' :: rest =
      '"' :: (value.flatMap escaped ++ '"' :: '\n' :: rest) := by
    simp [basicString]
  have shallow : ¬ maxDepth < 0 := Nat.not_lt_zero _
  rw [opened] at string ⊢
  rw [readValue, if_neg shallow]
  · rw [readPlain, plain?, string]
    rfl
  · simp
  · simp

theorem readStatement_writtenKey (document : Document) (key rest : Text) :
    document.readStatement (writtenKey key ++ rest) =
      document.readPair (writtenKey key ++ rest) := by
  have other {c d : Char} (no : d ≠ '"' ∧ isBareKeyChar d = false)
      (starts : c = '"' ∨ isBareKeyChar c = true) : c ≠ d := by
    rintro rfl
    rcases starts with quote | bare
    · exact no.1 quote
    · rw [no.2] at bare
      cases bare
  obtain ⟨c, tail, written, starts⟩ := exists_head_writtenKey key
  have newline : c ≠ '\n' := other (by decide) starts
  have comment : c ≠ '#' := other (by decide) starts
  have header : c ≠ '[' := other (by decide) starts
  rw [written, List.cons_append, readStatement]
  simp [newline, comment, header]

theorem readPair_eq_ok {path : List Text} {datum : Datum} {rest after : Text}
    (found : key? text = some (path, '=' :: rest))
    (stored : readValue (rest.length + 1) 0 (skipSpaces rest) = .ok (datum, after))
    (enters : document.enterPair? path datum = some final) :
    document.readPair text = .ok (final, after) := by
  simp [readPair, found, stored, enters, orMalformed]

theorem reads_pair {key value : Text}
    (enters : document.enterPair? [key] (.text value) = some final) :
    Reads document (pairLine key value) final := by
  have mark : IsPrintable " = ".toList := by decide
  refine reads_line
    (((isPrintable_writtenKey key).append mark).append (isPrintable_basicString value))
    fun rest => ⟨'\n' :: rest, ?_, rfl⟩
  have line : writtenKey key ++ " = ".toList ++ basicString value ++ '\n' :: rest =
      writtenKey key ++ ' ' :: '=' :: ' ' :: (basicString value ++ '\n' :: rest) := by
    simp
  have found : key? (writtenKey key ++ ' ' :: '=' :: ' ' :: (basicString value ++ '\n' :: rest)) =
      some ([key], '=' :: ' ' :: (basicString value ++ '\n' :: rest)) := by
    refine key?_written (List.cons_ne_nil key []) (fun c tail same => ?_) (fun tail same => ?_)
    · rw [← (List.cons.inj same).1]
      decide
    · exact absurd (List.cons.inj same).1 (by decide)
  rw [line, skipSpaces_writtenKey, readStatement_writtenKey]
  exact readPair_eq_ok found (readValue_basicString _ value rest) enters

theorem header?_eq_some {path : List Text} {after : Text} (single : ∀ tail, text ≠ '[' :: tail)
    (found : key? (skipSpaces text) = some (path, ']' :: after))
    (opens : document.openTable? path = some final) :
    document.header? ('[' :: text) = some (final, after) := by
  rw [header?]
  · simp [found, opens]
  · rintro rest same
    exact absurd same (single rest)

theorem reads_header {path : List Text} (nonempty : path ≠ [])
    (opens : document.openTable? path = some final) : Reads document (headerLine path) final := by
  have written :
      headerLine path = '[' :: joinWith '.' (path.map writtenKey) ++ [']'] ++ ['\n'] := by
    simp [headerLine]
  rw [written]
  refine reads_line ?_ fun rest => ⟨'\n' :: rest, ?_, rfl⟩
  · have bracket : IsPrintable ['['] ∧ IsPrintable [']'] := by decide
    exact (bracket.1.append (isPrintable_path path)).append bracket.2
  · obtain ⟨key, path, rfl⟩ := List.exists_cons_of_ne_nil nonempty
    have found : key? (joinWith '.' ((key :: path).map writtenKey) ++ ']' :: '\n' :: rest) =
        some (key :: path, ']' :: '\n' :: rest) := by
      refine key?_written nonempty (fun c tail same => ?_) (fun tail same => ?_)
      · rw [← (List.cons.inj same).1]
        decide
      · exact absurd (List.cons.inj same).1 (by decide)
    have single : ∀ tail, joinWith '.' ((key :: path).map writtenKey) ++ ']' :: '\n' :: rest ≠
        '[' :: tail := by
      obtain ⟨more, start⟩ := exists_joinWith_cons '.' (writtenKey key) (path.map writtenKey)
      rw [List.map_cons, start, List.append_assoc]
      exact head_writtenKey_ne key _ (by decide)
    have line : '[' :: joinWith '.' ((key :: path).map writtenKey) ++ [']'] ++ '\n' :: rest =
        '[' :: (joinWith '.' ((key :: path).map writtenKey) ++ ']' :: '\n' :: rest) := by
      simp
    rw [line]
    change orMalformed (document.header? _) = _
    rw [header?_eq_some single (by rw [skipSpaces_joinWith]; exact found) opens]
    rfl

end Document

end CommentDocs.Toml
