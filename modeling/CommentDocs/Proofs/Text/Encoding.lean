import CommentDocs.Text.Utf8
import Mathlib.Tactic.IntervalCases

/-!
# Decoding what was encoded

The bytes of a text decode to the text. The first byte of a character announces how many bytes
follow and bounds the next one. What the encoding writes lies within these bounds: it takes as few
bytes as possible, and a character is no surrogate.
-/

namespace CommentDocs.Utf8

variable {position start n : Nat} {first : UInt8} {rest : Bytes} {char : Unfinished} {c : Char}

theorem announced?_two (low : 2 ≤ n) (high : n < 32) :
    announced? start (.ofNat (n + 0xC0)) =
      some ⟨start, .ofNat (n + 0xC0), n, 1, 0x80, 0xBF⟩ := by
  interval_cases n <;> rfl

theorem announced?_three (small : n < 16) :
    announced? start (.ofNat (n + 0xE0)) =
      some ⟨start, .ofNat (n + 0xE0), n, 2, if n = 0 then 0xA0 else 0x80,
        if n = 13 then 0x9F else 0xBF⟩ := by
  interval_cases n <;> rfl

theorem announced?_four (small : n < 5) :
    announced? start (.ofNat (n + 0xF0)) =
      some ⟨start, .ofNat (n + 0xF0), n, 3, if n = 0 then 0x90 else 0x80,
        if n = 4 then 0x8F else 0xBF⟩ := by
  interval_cases n <;> rfl

/-- A byte that announces more is none of ASCII. -/
theorem decodeFrom_announced (announced : announced? position first = some char) :
    decodeFrom position none (first :: rest) = decodeFrom (position + 1) (some char) rest := by
  have high : ¬ first < 0x80 := by
    intro ascii
    have low : first < 0xC2 := UInt8.lt_trans ascii (by decide)
    simp [announced?, low] at announced
  rw [decodeFrom, if_neg high, announced]

/-- A byte that follows within the bounds adds six bits. -/
theorem decodeFrom_following (six : n < 64) (low : char.low.toNat ≤ n + 0x80)
    (high : n + 0x80 ≤ char.high.toNat) :
    decodeFrom position (some char) (.ofNat (n + 0x80) :: rest) =
      if char.missing = 1 then
        (Char.ofNat (char.code * 64 + n) :: ·) <$> decodeFrom (position + 1) none rest
      else
        decodeFrom (position + 1) (some { char with
          code := char.code * 64 + n
          missing := char.missing - 1
          low := 0x80
          high := 0xBF }) rest := by
  have size : (UInt8.ofNat (n + 0x80)).toNat = n + 0x80 :=
    UInt8.toNat_ofNat_of_lt' (by simp [UInt8.size]; omega)
  have bits : (UInt8.ofNat (n + 0x80) - 0x80).toNat = n := by
    rw [UInt8.toNat_sub_of_le _ _ (by rw [UInt8.le_iff_toNat_le, size]; simp), size]
    simp
  have within : (decide (char.low ≤ UInt8.ofNat (n + 0x80)) &&
      decide (UInt8.ofNat (n + 0x80) ≤ char.high)) = true := by
    simp only [UInt8.le_iff_toNat_le, size, low, high, decide_true, Bool.and_self]
  rw [decodeFrom, if_pos within]
  simp only [Unfinished.extended, bits]

/-- The last byte of a character. -/
theorem decodeFrom_last (six : n < 64) (last : char.missing = 1) (low : char.low = 0x80)
    (high : char.high = 0xBF) (code : char.code * 64 + n = c.toNat) :
    decodeFrom position (some char) (.ofNat (n + 0x80) :: rest) =
      (c :: ·) <$> decodeFrom (position + 1) none rest := by
  rw [decodeFrom_following six (by simp [low]) (by simp [high]; omega), if_pos last, code,
    Char.ofNat_toNat]

/-- A bound that is tighter after one first byte keeps what is large enough there. -/
theorem low_le {low : UInt8} {lead least : Nat} (value : low.toNat = least + 0x80)
    (tight : lead = 0 → least ≤ n) : (if lead = 0 then low else 0x80).toNat ≤ n + 0x80 := by
  split
  · rename_i shortest
    rw [value]
    exact Nat.add_le_add_right (tight shortest) 0x80
  · exact Nat.le_add_left _ _

/-- A bound that is tighter after one first byte keeps what is small enough there. -/
theorem le_high {high : UInt8} {lead longest most : Nat} (six : n < 64)
    (value : high.toNat + 1 = most + 0x80) (tight : lead = longest → n < most) :
    n + 0x80 ≤ (if lead = longest then high else 0xBF).toNat := by
  split
  · rename_i largest
    have below := tight largest
    omega
  · change n + 0x80 ≤ 0xBF
    omega

section

variable {lead second third last : Nat}

theorem decodeFrom_two (code : lead * 64 + last = c.toNat) (low : 2 ≤ lead) (high : lead < 32)
    (six : last < 64) :
    decodeFrom position none (.ofNat (lead + 0xC0) :: .ofNat (last + 0x80) :: rest) =
      (c :: ·) <$> decodeFrom (position + 2) none rest := by
  rw [decodeFrom_announced (announced?_two low high)]
  exact decodeFrom_last six rfl rfl rfl code

/-- A character of three bytes needs them and is no surrogate. -/
theorem decodeFrom_three (code : (lead * 64 + second) * 64 + last = c.toNat) (small : lead < 16)
    (middle : second < 64) (six : last < 64) (needed : lead = 0 → 0x20 ≤ second)
    (plain : lead = 13 → second < 0x20) :
    decodeFrom position none (.ofNat (lead + 0xE0) :: .ofNat (second + 0x80) ::
        .ofNat (last + 0x80) :: rest) =
      (c :: ·) <$> decodeFrom (position + 3) none rest := by
  have low : (if lead = 0 then 0xA0 else 0x80 : UInt8).toNat ≤ second + 0x80 :=
    low_le (by decide) needed
  have high : second + 0x80 ≤ (if lead = 13 then 0x9F else 0xBF : UInt8).toNat :=
    le_high middle (by decide) plain
  rw [decodeFrom_announced (announced?_three small), decodeFrom_following middle low high,
    if_neg (by simp)]
  exact decodeFrom_last six rfl rfl rfl code

/-- A character of four bytes needs them and is not too large. -/
theorem decodeFrom_four (code : ((lead * 64 + second) * 64 + third) * 64 + last = c.toNat)
    (small : lead < 5) (middle : second < 64) (next : third < 64) (six : last < 64)
    (needed : lead = 0 → 0x10 ≤ second) (bounded : lead = 4 → second < 0x10) :
    decodeFrom position none (.ofNat (lead + 0xF0) :: .ofNat (second + 0x80) ::
        .ofNat (third + 0x80) :: .ofNat (last + 0x80) :: rest) =
      (c :: ·) <$> decodeFrom (position + 4) none rest := by
  have low : (if lead = 0 then 0x90 else 0x80 : UInt8).toNat ≤ second + 0x80 :=
    low_le (by decide) needed
  have high : second + 0x80 ≤ (if lead = 4 then 0x8F else 0xBF : UInt8).toNat :=
    le_high middle (by decide) bounded
  rw [decodeFrom_announced (announced?_four small), decodeFrom_following middle low high,
    if_neg (by simp), decodeFrom_following next (by simp) (by simp; omega), if_neg (by simp)]
  exact decodeFrom_last six rfl rfl rfl code

end

/-- The bytes of a character are the least number that hold it, and it is no surrogate. -/
theorem decodeFrom_encodeChar (c : Char) :
    decodeFrom position none (String.utf8EncodeChar c ++ rest) =
      (c :: ·) <$> decodeFrom (position + c.utf8Size) none rest := by
  have valid : c.toNat < 0xD800 ∨ 0xDFFF < c.toNat ∧ c.toNat < 0x110000 := c.valid
  rw [← String.length_utf8EncodeChar c]
  by_cases one : c.toNat ≤ 0x7F
  · have bytes : String.utf8EncodeChar c = [.ofNat c.toNat] := by
      simp [String.utf8EncodeChar, one]
    have size : (UInt8.ofNat c.toNat).toNat = c.toNat :=
      UInt8.toNat_ofNat_of_lt' (by simp [UInt8.size]; omega)
    have ascii : UInt8.ofNat c.toNat < 0x80 := by
      rw [UInt8.lt_iff_toNat_lt, size]
      simp
      omega
    rw [bytes, List.cons_append, decodeFrom, if_pos ascii, size, Char.ofNat_toNat]
    rfl
  by_cases two : c.toNat ≤ 0x7FF
  · have bytes : String.utf8EncodeChar c =
        [.ofNat (c.toNat / 64 + 0xC0), .ofNat (c.toNat % 64 + 0x80)] := by
      simp [String.utf8EncodeChar, one, two, Nat.mod_eq_of_lt (show c.toNat / 64 < 32 by omega)]
    rw [bytes]
    exact decodeFrom_two (by omega) (by omega) (by omega) (by omega)
  by_cases three : c.toNat ≤ 0xFFFF
  · have bytes : String.utf8EncodeChar c = [.ofNat (c.toNat / 4096 + 0xE0),
        .ofNat (c.toNat / 64 % 64 + 0x80), .ofNat (c.toNat % 64 + 0x80)] := by
      simp [String.utf8EncodeChar, one, two, three,
        Nat.mod_eq_of_lt (show c.toNat / 4096 < 16 by omega)]
    rw [bytes]
    exact decodeFrom_three (by omega) (by omega) (by omega) (by omega) (by omega) (by omega)
  · have bytes : String.utf8EncodeChar c = [.ofNat (c.toNat / 262144 + 0xF0),
        .ofNat (c.toNat / 4096 % 64 + 0x80), .ofNat (c.toNat / 64 % 64 + 0x80),
        .ofNat (c.toNat % 64 + 0x80)] := by
      simp [String.utf8EncodeChar, one, two, three,
        Nat.mod_eq_of_lt (show c.toNat / 262144 < 8 by omega)]
    rw [bytes]
    exact decodeFrom_four (by omega) (by omega) (by omega) (by omega) (by omega) (by omega)
      (by omega)

theorem decodeFrom_encode (text : Text) : decodeFrom position none (encode text) = .ok text := by
  induction text generalizing position with
  | nil => rfl
  | cons c text ih =>
    rw [encode, List.flatMap_cons, decodeFrom_encodeChar, ← encode, ih]
    rfl

/-- The bytes of a text decode to it. -/
theorem decode_encode (text : Text) : decode (encode text) = .ok text :=
  decodeFrom_encode text

end CommentDocs.Utf8
