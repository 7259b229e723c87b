import CommentDocs.Proofs.Syntax.Nearest
import CommentDocs.Proofs.Text.Encoding
import Mathlib.Order.Monotone.Defs

/-!
# Bytes and characters of a source

A parser gives ranges of bytes, and a source is cut by its characters. Both see the same source:
between two boundaries the bytes are those of the characters, so cutting the bytes and decoding
what is cut out gives the characters of the range.

The character at a byte can be looked up in the table of all boundaries, the end of the source
included. The search counts the boundaries up to the byte, of which the first one is the start.
-/

namespace CommentDocs.Syntax

open Text

variable {source first second : Text} {byte start stop offset i : Nat}

theorem byteSize_append (first second : Text) :
    byteSize (first ++ second) = byteSize first + byteSize second := by
  induction first with
  | nil => rw [List.nil_append, byteSize, Nat.zero_add]
  | cons c first ih => rw [List.cons_append, byteSize, byteSize, ih, Nat.add_assoc]

theorem length_encode (text : Text) : (Utf8.encode text).length = byteSize text := by
  induction text with
  | nil => rfl
  | cons c text ih =>
    rw [Utf8.encode] at ih
    rw [Utf8.encode, List.flatMap_cons, List.length_append, String.length_utf8EncodeChar, ih,
      byteSize]

theorem encode_append (first second : Text) :
    Utf8.encode (first ++ second) = Utf8.encode first ++ Utf8.encode second :=
  List.flatMap_append

theorem charIndex_le_length (source : Text) (byte : Nat) :
    charIndex source byte ≤ source.length := by
  induction source generalizing byte with
  | nil => exact Nat.le_refl _
  | cons c rest ih =>
    unfold charIndex
    split
    · exact Nat.succ_le_succ (ih _)
    · exact Nat.zero_le _

/-- Each boundary leads back to the character that starts there, or to the end. -/
theorem charIndex_byteSize_take (inside : i ≤ source.length) :
    charIndex source (byteSize (source.take i)) = i := by
  have found := charIndex_byteSize (source.take i) (source.drop i)
  rwa [List.take_append_drop, List.length_take, Nat.min_eq_left inside] at found

/-- A byte leads to the character that it is part of. -/
theorem charIndex_of_within (after : byteSize (source.take i) ≤ byte)
    (before : byte < byteSize (source.take (i + 1))) : charIndex source byte = i := by
  induction source generalizing i byte with
  | nil => simp [byteSize] at before
  | cons c rest ih =>
    cases i with
    | zero =>
      rw [List.take_succ_cons, List.take_zero, byteSize, byteSize] at before
      rw [charIndex, if_neg (by omega)]
    | succ i =>
      rw [List.take_succ_cons, byteSize] at after before
      rw [charIndex, if_pos (by omega), ih (i := i) (by omega) (by omega)]

/-- The bytes before each character and before the end of a source. -/
def boundaries (source : Text) : List Nat :=
  source.scanl (fun offset c => offset + c.utf8Size) 0

theorem sorted_scanl (source : Text) (offset : Nat) :
    (source.scanl (fun offset c => offset + c.utf8Size) offset).Pairwise (· < ·) ∧
      ∀ boundary ∈ source.scanl (fun offset c => offset + c.utf8Size) offset,
        offset ≤ boundary := by
  induction source generalizing offset with
  | nil => simp
  | cons c rest ih =>
    obtain ⟨sorted, above⟩ := ih (offset + c.utf8Size)
    have width := c.utf8Size_pos
    rw [List.scanl_cons]
    refine ⟨.cons (fun boundary mem => ?_) sorted, fun boundary mem => ?_⟩
    · have later := above boundary mem
      omega
    · rcases List.mem_cons.mp mem with rfl | mem
      · exact Nat.le_refl _
      · have later := above boundary mem
        omega

theorem length_filter_scanl (source : Text) (offset byte : Nat) :
    ((source.scanl (fun offset c => offset + c.utf8Size) offset).filter
      (· ≤ offset + byte)).length = charIndex source byte + 1 := by
  induction source generalizing offset byte with
  | nil => simp [charIndex]
  | cons c rest ih =>
    rw [List.scanl_cons, List.filter_cons_of_pos (by simp), List.length_cons, charIndex]
    split
    · rename_i reached
      have same : offset + byte = offset + c.utf8Size + (byte - c.utf8Size) := by omega
      rw [same, ih]
    · have none : (rest.scanl (fun offset c => offset + c.utf8Size) (offset + c.utf8Size)).filter
          (· ≤ offset + byte) = [] := by
        refine List.filter_eq_nil_iff.mpr fun boundary mem => ?_
        have later := (sorted_scanl rest (offset + c.utf8Size)).2 boundary mem
        simp only [decide_eq_true_eq]
        omega
      rw [none, List.length_nil]

/-- The character at a byte is found by a search for the last boundary up to it. -/
theorem charIndex_eq_bisect (source : Text) (byte : Nat) :
    charIndex source byte =
      bisect (fun boundary => decide (boundary ≤ byte)) (boundaries source) 0
        (boundaries source).length - 1 := by
  have sorted : (boundaries source).Pairwise fun boundary next =>
      decide (next ≤ byte) → decide (boundary ≤ byte) := by
    refine (sorted_scanl source 0).1.imp fun {boundary next} lt reached => decide_eq_true ?_
    exact Nat.le_trans (Nat.le_of_lt lt) (of_decide_eq_true reached)
  have counted := length_filter_scanl source 0 byte
  rw [Nat.zero_add] at counted
  rw [bisect_eq_length_filter sorted, boundaries, counted, Nat.add_sub_cancel]

theorem betweenFrom_append (first second : Text) :
    betweenFrom offset start stop (first ++ second) =
      betweenFrom offset start stop first ++
        betweenFrom (offset + byteSize first) start stop second := by
  induction first generalizing offset with
  | nil => rfl
  | cons c first ih =>
    rw [List.cons_append, betweenFrom, betweenFrom, ih, byteSize, Nat.add_assoc]
    split <;> rfl

/-- Nothing is cut out of a text that lies before or after the range. -/
theorem betweenFrom_eq_nil {text : Text}
    (outside : offset + byteSize text ≤ start ∨ stop ≤ offset ∨ stop ≤ start) :
    betweenFrom offset start stop text = [] := by
  induction text generalizing offset with
  | nil => rfl
  | cons c text ih =>
    have width := c.utf8Size_pos
    rw [byteSize] at outside
    rw [betweenFrom, if_neg (by simp only [Bool.and_eq_true, decide_eq_true_eq]; omega)]
    exact ih (by omega)

theorem betweenFrom_eq_self {text : Text} (low : start ≤ offset)
    (high : offset + byteSize text ≤ stop) : betweenFrom offset start stop text = text := by
  induction text generalizing offset with
  | nil => rfl
  | cons c text ih =>
    rw [byteSize] at high
    rw [betweenFrom, if_pos (by simp only [Bool.and_eq_true, decide_eq_true_eq]; omega),
      ih (by omega) (by omega)]

/-- Nothing stands in a range that ends before it starts. -/
theorem slice_eq_nil (inverted : stop ≤ start) :
    slice source (charIndex source start) (charIndex source stop) = [] := by
  refine List.drop_eq_nil_of_le (Nat.le_trans ?_ (charIndex_mono source inverted))
  exact List.length_take_le _ _

/-- A source is what stands before a range between two boundaries, in it and after it. -/
theorem exists_parts (low : IsBoundary source start) (high : IsBoundary source stop)
    (ordered : start ≤ stop) :
    ∃ before middle after, source = before ++ middle ++ after ∧ byteSize before = start ∧
      byteSize (before ++ middle) = stop ∧
        middle = slice source (charIndex source start) (charIndex source stop) := by
  have below := charIndex_mono source ordered
  have parts : source.take (charIndex source start) ++
      slice source (charIndex source start) (charIndex source stop) =
        source.take (charIndex source stop) := by
    rw [slice, List.drop_take, ← List.take_add, Nat.add_sub_cancel' below]
  refine ⟨source.take (charIndex source start), _, source.drop (charIndex source stop), ?_,
    byteSize_take_charIndex low, ?_, rfl⟩
  · rw [parts, List.take_append_drop]
  · rw [parts, byteSize_take_charIndex high]

/-- Between two boundaries stand the characters of the range. -/
theorem betweenBytes_eq_slice (low : IsBoundary source start) (high : IsBoundary source stop) :
    betweenBytes source start stop =
      slice source (charIndex source start) (charIndex source stop) := by
  rcases Nat.le_total start stop with ordered | inverted
  · obtain ⟨before, middle, after, parts, starts, stops, same⟩ := exists_parts low high ordered
    have early : betweenFrom 0 start stop before = [] := betweenFrom_eq_nil (by omega)
    have late : betweenFrom (0 + byteSize (before ++ middle)) start stop after = [] :=
      betweenFrom_eq_nil (by omega)
    rw [byteSize_append] at stops
    rw [← same, betweenBytes, parts, betweenFrom_append, betweenFrom_append, early, late,
      betweenFrom_eq_self (by omega) (by omega), List.nil_append, List.append_nil]
  · rw [slice_eq_nil inverted, betweenBytes, betweenFrom_eq_nil (.inr (.inr inverted))]

/-- The bytes between two boundaries are those of the characters of the range. -/
theorem slice_encode (low : IsBoundary source start) (high : IsBoundary source stop) :
    ((Utf8.encode source).take stop).drop start =
      Utf8.encode (slice source (charIndex source start) (charIndex source stop)) := by
  rcases Nat.le_total start stop with ordered | inverted
  · obtain ⟨before, middle, after, parts, starts, stops, same⟩ := exists_parts low high ordered
    rw [← same, parts, encode_append _ after, List.take_left' (by rw [length_encode, stops]),
      encode_append, List.drop_left' (by rw [length_encode, starts])]
  · rw [slice_eq_nil inverted, List.drop_eq_nil_of_le]
    · rfl
    · exact Nat.le_trans (List.length_take_le _ _) inverted

/-- The character at a byte grows with the byte and never lies past the end; each boundary, the end
included, leads back to its own character, and every other byte to the character that it is part of.
Therefore the text of a node between two boundaries is the same in both views: the bytes of the node
decode to it without fault, and it is cut out of the stream by the node's range of characters. -/
theorem bytes_and_characters (source : Text) :
    (∀ byte, charIndex source byte =
        bisect (fun boundary => decide (boundary ≤ byte)) (boundaries source) 0
          (boundaries source).length - 1) ∧
      Monotone (charIndex source) ∧
      (∀ byte, charIndex source byte ≤ source.length) ∧
      (∀ i ≤ source.length, charIndex source (byteSize (source.take i)) = i) ∧
      (∀ i byte, byteSize (source.take i) ≤ byte → byte < byteSize (source.take (i + 1)) →
        charIndex source byte = i) ∧
      ∀ root node : Tree, IsBoundary source node.start → IsBoundary source node.stop →
        Utf8.decode (((Utf8.encode source).take node.stop).drop node.start) =
            .ok (node.text source) ∧
          node.text source = (streamOf source root).textOf (node.span source) := by
  refine ⟨charIndex_eq_bisect source, fun _ _ le => charIndex_mono source le,
    charIndex_le_length source, fun _ => charIndex_byteSize_take,
    fun _ _ => charIndex_of_within, fun root node low high => ?_⟩
  have text : node.text source =
      slice source (node.span source).start (node.span source).stop :=
    betweenBytes_eq_slice low high
  exact ⟨by rw [slice_encode low high, Utf8.decode_encode, text]; rfl, text⟩

/-- A source with characters of one, two, three and four bytes. -/
def wideSource : Text := "aé€😀".toList

/-- A node that covers the second and the third character of `wideSource`. -/
def wideNode : Tree := .node "identifier".toList 1 6 true none []

theorem bytes_and_characters_wide :
    (4 ≤ wideSource.length ∧ charIndex wideSource (byteSize (wideSource.take 4)) = 4) ∧
      (byteSize (wideSource.take 3) ≤ 8 ∧ 8 < byteSize (wideSource.take 4) ∧
        charIndex wideSource 8 = 3) ∧
      IsBoundary wideSource wideNode.start ∧ IsBoundary wideSource wideNode.stop ∧
        Utf8.decode [0xC3, 0xA9, 0xE2, 0x82, 0xAC] = .ok "é€".toList ∧
          (streamOf wideSource wideNode).textOf ⟨1, 3⟩ = "é€".toList := by
  obtain ⟨-, -, -, back, within, texts⟩ := bytes_and_characters wideSource
  have ended : 4 ≤ wideSource.length := by decide
  have after : byteSize (wideSource.take 3) ≤ 8 := by decide
  have before : 8 < byteSize (wideSource.take 4) := by decide
  have low : IsBoundary wideSource wideNode.start := by decide
  have high : IsBoundary wideSource wideNode.stop := by decide
  obtain ⟨decoded, same⟩ := texts wideNode wideNode low high
  have text : wideNode.text wideSource = "é€".toList := by decide
  rw [text] at decoded same
  exact ⟨⟨ended, back 4 ended⟩, ⟨after, before, within 3 8 after before⟩, low, high, decoded,
    same.symm⟩

end CommentDocs.Syntax
