import CommentDocs.Toml.Writer
import Mathlib.Data.List.TakeWhile

/-!
# Written strings and keys are read back

A character is written as itself or as one escape, and the reader takes back exactly that and goes
on with what follows. So a text between quotes comes back whole, whatever follows its closing quote,
and so does a path of keys up to a character that no key and no dot starts with.

Nothing that is written is a control character: line ends and carriage returns are escaped.
-/

namespace CommentDocs.Toml

open Text

/-- Whether a text holds no control character but tabs. -/
def IsPrintable (text : Text) : Prop :=
  ∀ c ∈ text, isForbidden c = false

instance (text : Text) : Decidable (IsPrintable text) :=
  decidable_of_iff (text.any isForbidden = false) (by simp [IsPrintable])

theorem IsPrintable.append {first second : Text} (left : IsPrintable first)
    (right : IsPrintable second) : IsPrintable (first ++ second) :=
  List.forall_mem_append.mpr ⟨left, right⟩

theorem isPrintable_hex (width n : Nat) : IsPrintable (hex width n) := by
  induction width generalizing n with
  | zero => simp [hex, IsPrintable]
  | succ width ih =>
    have digit : ∀ n < 16, isForbidden (hexDigit n) = false := by decide
    refine (ih _).append fun c mem => ?_
    rw [List.mem_singleton.mp mem]
    exact digit _ (Nat.mod_lt n (by decide))

theorem escape?_short {letter c : Char} (short : shortEscape? letter = some c) (rest : Text) :
    escape? false (letter :: rest) = some ([c], rest) := by
  have noCode : letter ≠ 'u' ∧ letter ≠ 'U' := by
    constructor <;> (rintro rfl; simp [shortEscape?] at short)
  rw [escape?]
  · simp [short]
  · exact fun same => absurd same noCode.1
  · exact fun same => absurd same noCode.2

theorem escape?_hex {c : Char} (small : c.toNat < 0x10000) (rest : Text) :
    escape? false ('u' :: hex 4 c.toNat ++ rest) = some ([c], rest) := by
  have digits : (hex 4 c.toNat ++ rest).take 4 = hex 4 c.toNat :=
    List.take_left' (length_hex 4 c.toNat)
  have after : (hex 4 c.toNat ++ rest).drop 4 = rest := List.drop_left' (length_hex 4 c.toNat)
  have code : hexValue? (hex 4 c.toNat) = some c.toNat := hexValue?_hex small
  rw [List.cons_append, escape?, digits, after]
  simp [codeEscape?, code]

/-- A character is written as itself, or as an escape that stands for it. -/
theorem escaped_cases (c : Char) :
    (escaped c = [c] ∧ c ≠ '"' ∧ c ≠ '\\' ∧ isForbidden c = false) ∨
      ∃ body, escaped c = '\\' :: body ∧ IsPrintable body ∧
        ∀ rest, escape? false (body ++ rest) = some ([c], rest) := by
  by_cases lettered : c ∈ ['"', '\\', '\x08', '\t', '\n', '\x0c', '\r']
  · have short (letter : Char) {c : Char} (printable : isForbidden letter = false)
        (stands : shortEscape? letter = some c) (written : escaped c = ['\\', letter]) :
        ∃ body, escaped c = '\\' :: body ∧ IsPrintable body ∧
          ∀ rest, escape? false (body ++ rest) = some ([c], rest) :=
      ⟨[letter], written, by simpa [IsPrintable] using printable, escape?_short stands⟩
    simp only [List.mem_cons, List.not_mem_nil, or_false] at lettered
    right
    rcases lettered with rfl | rfl | rfl | rfl | rfl | rfl | rfl
    · exact short '"' (by decide) rfl rfl
    · exact short '\\' (by decide) rfl rfl
    · exact short 'b' (by decide) rfl rfl
    · exact short 't' (by decide) rfl rfl
    · exact short 'n' (by decide) rfl rfl
    · exact short 'f' (by decide) rfl rfl
    · exact short 'r' (by decide) rfl rfl
  · have written : escaped c =
        if c.toNat < 0x20 || c.toNat = 0x7F then "\\u".toList ++ hex 4 c.toNat else [c] := by
      simp only [List.mem_cons, List.not_mem_nil, or_false, not_or] at lettered
      simp [escaped, lettered]
    rw [written]
    by_cases control : c.toNat < 0x20 || c.toNat = 0x7F
    · rw [if_pos control]
      refine .inr ⟨'u' :: hex 4 c.toNat, rfl, ?_, escape?_hex ?_⟩
      · have mark : IsPrintable ['u'] := by decide
        exact mark.append (isPrintable_hex 4 _)
      · simp only [Bool.or_eq_true, decide_eq_true_eq] at control
        omega
    · rw [if_neg control]
      simp only [List.mem_cons, List.not_mem_nil, or_false, not_or] at lettered
      refine .inl ⟨rfl, lettered.1, lettered.2.1, ?_⟩
      simpa [isForbidden, lettered] using control

theorem isPrintable_escaped (c : Char) : IsPrintable (escaped c) := by
  rcases escaped_cases c with ⟨written, _, _, printable⟩ | ⟨body, written, printable, _⟩
  · rw [written]
    simpa [IsPrintable] using printable
  · have mark : IsPrintable ['\\'] := by decide
    rw [written]
    exact mark.append printable

theorem basicTail?_escaped (c : Char) (rest : Text) :
    basicTail? (escaped c ++ rest) =
      (basicTail? rest).map fun (tail, final) => (c :: tail, final) := by
  rcases escaped_cases c with ⟨written, quote, backslash, printable⟩ | ⟨body, written, _, reads⟩
  · rw [written, List.cons_append, List.nil_append, basicTail?]
    · simp [printable]
    · exact fun same => absurd same quote
    · exact fun same => absurd same backslash
  · rw [written, List.cons_append, basicTail?]
    split
    · rename_i found
      rw [reads] at found
      cases found
      rfl
    · rename_i found
      rw [reads] at found
      cases found

theorem isPrintable_basicString (text : Text) : IsPrintable (basicString text) := by
  have quote : IsPrintable ['"'] := by decide
  refine (quote.append fun c mem => ?_).append quote
  obtain ⟨d, _, inside⟩ := List.mem_flatMap.mp mem
  exact isPrintable_escaped d c inside

theorem basicTail?_written (text rest : Text) :
    basicTail? (text.flatMap escaped ++ '"' :: rest) = some (text, rest) := by
  induction text with
  | nil => rw [List.flatMap_nil, List.nil_append, basicTail?]
  | cons c text ih =>
    rw [List.flatMap_cons, List.append_assoc, basicTail?_escaped, ih]
    rfl

/-- Only an empty string with another quote after it could be taken for three quotes. -/
theorem string?_basicString (text : Text) {rest : Text} (after : rest.head? ≠ some '"') :
    string? (basicString text ++ rest) = some (text, rest) := by
  have written : basicString text ++ rest = '"' :: (text.flatMap escaped ++ '"' :: rest) := by
    simp [basicString]
  have single : ∀ more, text.flatMap escaped ++ '"' :: rest ≠ '"' :: '"' :: more := by
    intro more same
    cases text with
    | nil =>
      rw [List.flatMap_nil, List.nil_append, List.cons.injEq] at same
      exact after (same.2 ▸ rfl)
    | cons c text =>
      rcases escaped_cases c with ⟨itself, quote, _⟩ | ⟨body, escape, _⟩
      · rw [List.flatMap_cons, itself] at same
        exact quote (List.cons.inj same).1
      · rw [List.flatMap_cons, escape] at same
        exact absurd (List.cons.inj same).1 (by decide)
  rw [written, string?, basicTail?_written]
  exact fun more same => absurd same (single more)

theorem isForbidden_of_isBareKeyChar {c : Char} (bare : isBareKeyChar c = true) :
    isForbidden c = false := by
  have ascii : ∀ n < 128, isBareKeyChar (Char.ofNat n) = true →
      isForbidden (Char.ofNat n) = false := by decide
  by_contra forbidden
  have below : c.toNat < 128 := by
    simp only [isForbidden, Bool.not_eq_false, Bool.or_eq_true, Bool.and_eq_true,
      decide_eq_true_eq] at forbidden
    omega
  have plain := ascii c.toNat below
  rw [Char.ofNat_toNat] at plain
  exact forbidden (plain bare)

/-- A key is written as itself, if it can be, and else as a string. -/
theorem writtenKey_cases (key : Text) :
    (writtenKey key = key ∧ key ≠ [] ∧ ∀ c ∈ key, isBareKeyChar c = true) ∨
      writtenKey key = basicString key := by
  unfold writtenKey
  split
  · rename_i bare
    exact .inl ⟨rfl, bare.1, List.all_eq_true.mp bare.2⟩
  · exact .inr rfl

theorem isPrintable_writtenKey (key : Text) : IsPrintable (writtenKey key) := by
  rcases writtenKey_cases key with ⟨written, _, bare⟩ | written
  · rw [written]
    exact fun c mem => isForbidden_of_isBareKeyChar (bare c mem)
  · rw [written]
    exact isPrintable_basicString key

/-- A written key starts with a quote or with a character of a key. -/
theorem exists_head_writtenKey (key : Text) :
    ∃ c tail, writtenKey key = c :: tail ∧ (c = '"' ∨ isBareKeyChar c = true) := by
  rcases writtenKey_cases key with ⟨written, nonempty, bare⟩ | written
  · obtain ⟨c, tail, rfl⟩ := List.exists_cons_of_ne_nil nonempty
    exact ⟨c, tail, written, .inr (bare c List.mem_cons_self)⟩
  · exact ⟨'"', _, written, .inl rfl⟩

/-- What does not start a key does not start a written one. -/
theorem head_writtenKey_ne (key rest : Text) {c : Char}
    (other : c ≠ '"' ∧ isBareKeyChar c = false) : ∀ tail, writtenKey key ++ rest ≠ c :: tail := by
  intro tail same
  obtain ⟨d, more, written, starts⟩ := exists_head_writtenKey key
  rw [written, List.cons_append] at same
  rw [(List.cons.inj same).1] at starts
  rcases starts with quote | bare
  · exact other.1 quote
  · rw [other.2] at bare
    cases bare

theorem skipSpaces_writtenKey (key rest : Text) :
    skipSpaces (writtenKey key ++ rest) = writtenKey key ++ rest := by
  obtain ⟨c, tail, written, starts⟩ := exists_head_writtenKey key
  have solid : ¬ isSpace c = true := by
    intro space
    simp only [isSpace, Bool.or_eq_true, decide_eq_true_eq] at space
    rcases space with rfl | rfl <;> revert starts <;> decide
  rw [written, List.cons_append, skipSpaces, List.dropWhile_cons_of_neg solid]

/-- A written key is read back if what follows it does not belong to a key. -/
theorem keyPart?_writtenKey (key : Text) {rest : Text}
    (after : ∀ c tail, rest = c :: tail → isBareKeyChar c = false) :
    keyPart? (writtenKey key ++ rest) = some (key, rest) := by
  rcases writtenKey_cases key with ⟨written, nonempty, bare⟩ | written
  · have cut : rest.takeWhile isBareKeyChar = [] ∧ rest.dropWhile isBareKeyChar = rest := by
      cases rest with
      | nil => exact ⟨rfl, rfl⟩
      | cons c tail => simp [after c tail rfl]
    have unquoted (quote : Char) (other : isBareKeyChar quote = false) :
        ∀ tail, key ++ rest ≠ quote :: tail := by
      intro tail same
      obtain ⟨c, more, rfl⟩ := List.exists_cons_of_ne_nil nonempty
      have starts := bare c List.mem_cons_self
      rw [(List.cons.inj same).1, other] at starts
      cases starts
    rw [written, keyPart?, List.takeWhile_append_of_pos bare, List.dropWhile_append_of_pos bare,
      cut.1, cut.2, List.append_nil]
    · obtain ⟨c, more, rfl⟩ := List.exists_cons_of_ne_nil nonempty
      rfl
    · exact fun tail same => absurd same (unquoted '"' (by decide) tail)
    · exact fun tail same => absurd same (unquoted '\'' (by decide) tail)
  · have quoted : writtenKey key ++ rest = '"' :: (key.flatMap escaped ++ '"' :: rest) := by
      simp [written, basicString]
    rw [quoted, keyPart?, basicTail?_written]

theorem keyParts?_last {text part rest : Text} (found : keyPart? text = some (part, rest))
    (noDot : ∀ tail, skipSpaces rest ≠ '.' :: tail) (fuel : Nat) :
    keyParts? (fuel + 1) text = some ([part], skipSpaces rest) := by
  rw [keyParts?, found]
  dsimp only
  split
  · rename_i more dot
    exact absurd dot (noDot more)
  · rfl

theorem keyParts?_dot {text part more : Text} (found : keyPart? text = some (part, '.' :: more))
    (fuel : Nat) :
    keyParts? (fuel + 1) text =
      (keyParts? fuel (skipSpaces more)).map fun (parts, final) => (part :: parts, final) := by
  rw [keyParts?, found]
  rfl

theorem exists_joinWith_cons (separator : Char) (piece : Text) (pieces : List Text) :
    ∃ more, joinWith separator (piece :: pieces) = piece ++ more := by
  cases pieces with
  | nil => exact ⟨[], (List.append_nil piece).symm⟩
  | cons next pieces => exact ⟨separator :: joinWith separator (next :: pieces), rfl⟩

theorem isPrintable_path (path : List Text) :
    IsPrintable (joinWith '.' (path.map writtenKey)) := by
  induction path with
  | nil => exact fun _ mem => absurd mem List.not_mem_nil
  | cons key path ih =>
    cases path with
    | nil => exact isPrintable_writtenKey key
    | cons next path =>
      have dot : IsPrintable ['.'] := by decide
      exact (isPrintable_writtenKey key).append (dot.append ih)

theorem skipSpaces_joinWith (key : Text) (path : List Text) (rest : Text) :
    skipSpaces (joinWith '.' ((key :: path).map writtenKey) ++ rest) =
      joinWith '.' ((key :: path).map writtenKey) ++ rest := by
  obtain ⟨more, start⟩ := exists_joinWith_cons '.' (writtenKey key) (path.map writtenKey)
  rw [List.map_cons, start, List.append_assoc, skipSpaces_writtenKey]

/-- A written path is read back, and the blanks after it are skipped. -/
theorem keyParts?_written {path : List Text} (nonempty : path ≠ []) {fuel : Nat}
    (enough : path.length ≤ fuel) {rest : Text}
    (after : ∀ c tail, rest = c :: tail → isBareKeyChar c = false)
    (noDot : ∀ tail, skipSpaces rest ≠ '.' :: tail) :
    keyParts? fuel (joinWith '.' (path.map writtenKey) ++ rest) = some (path, skipSpaces rest) := by
  induction path generalizing fuel with
  | nil => exact absurd rfl nonempty
  | cons key path ih =>
    obtain ⟨fuel, rfl⟩ := Nat.exists_eq_add_of_le' (Nat.le_trans (Nat.le_add_left 1 _) enough)
    cases path with
    | nil => exact keyParts?_last (keyPart?_writtenKey key after) noDot fuel
    | cons next path =>
      have dotted : ∀ c tail,
          '.' :: (joinWith '.' ((next :: path).map writtenKey) ++ rest) = c :: tail →
            isBareKeyChar c = false := by
        rintro c tail same
        rw [← (List.cons.inj same).1]
        decide
      have text : joinWith '.' ((key :: next :: path).map writtenKey) ++ rest =
          writtenKey key ++ '.' :: (joinWith '.' ((next :: path).map writtenKey) ++ rest) := by
        simp [joinWith]
      rw [text, keyParts?_dot (keyPart?_writtenKey key dotted), skipSpaces_joinWith,
        ih (List.cons_ne_nil _ _) (Nat.le_of_succ_le_succ enough)]
      rfl

theorem key?_written {path : List Text} (nonempty : path ≠ []) {rest : Text}
    (after : ∀ c tail, rest = c :: tail → isBareKeyChar c = false)
    (noDot : ∀ tail, skipSpaces rest ≠ '.' :: tail) :
    key? (joinWith '.' (path.map writtenKey) ++ rest) = some (path, skipSpaces rest) := by
  refine keyParts?_written nonempty ?_ after noDot
  have enough := length_le_length_joinWith '.' (path.map writtenKey)
  rw [List.length_map] at enough
  rw [List.length_append]
  omega

end CommentDocs.Toml
