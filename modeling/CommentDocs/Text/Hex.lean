import CommentDocs.Text.Basic

/-!
# Hexadecimal escapes

Code points are escaped by a fixed number of lower-case hexadecimal digits; digits of
either case are read back.
-/

namespace CommentDocs.Text

def hexDigit (n : Nat) : Char :=
  if n < 10 then Char.ofNat (48 + n) else Char.ofNat (87 + n)

/-- The last `width` hexadecimal digits of a number, leading zeros included. -/
def hex : (width n : Nat) → Text
  | 0, _ => []
  | width + 1, n => hex width (n / 16) ++ [hexDigit (n % 16)]

def hexDigitValue? (c : Char) : Option Nat :=
  if '0' ≤ c && c ≤ '9' then some (c.toNat - 48)
  else if 'a' ≤ c && c ≤ 'f' then some (c.toNat - 87)
  else if 'A' ≤ c && c ≤ 'F' then some (c.toNat - 55)
  else none

/-- The number that a run of hexadecimal digits stands for. -/
def hexValue? (digits : Text) : Option Nat :=
  digits.foldlM (fun value c => (hexDigitValue? c).map (value * 16 + ·)) 0

/-- The character of a code point; surrogates and numbers past the last code point have
none. -/
def charOfCode? (n : Nat) : Option Char :=
  if n.isValidChar then some (Char.ofNat n) else none

@[simp] theorem length_hex (width n : Nat) : (hex width n).length = width := by
  induction width generalizing n with
  | zero => rfl
  | succ width ih => simp [hex, ih]

theorem hexDigitValue?_hexDigit {n : Nat} (h : n < 16) : hexDigitValue? (hexDigit n) = some n := by
  have all : ∀ n < 16, hexDigitValue? (hexDigit n) = some n := by decide
  exact all n h

/-- A number is read back from its digits if there are enough of them. -/
theorem hexValue?_hex {width n : Nat} (h : n < Nat.pow 16 width) :
    hexValue? (hex width n) = some n := by
  induction width generalizing n with
  | zero =>
    obtain rfl : n = 0 := Nat.lt_one_iff.mp h
    rfl
  | succ width ih =>
    have bound : n < 16 * Nat.pow 16 width := Nat.mul_comm _ 16 ▸ h
    have high : hexValue? (hex width (n / 16)) = some (n / 16) := ih (Nat.div_lt_of_lt_mul bound)
    have low := hexDigitValue?_hexDigit (Nat.mod_lt n (by decide : 16 > 0))
    rw [hexValue?] at high
    rw [hexValue?, hex, List.foldlM_append, high]
    simp [low, Nat.div_add_mod']

/-- Every character is the character of its own code point. -/
@[simp] theorem charOfCode?_toNat (c : Char) : charOfCode? c.toNat = some c := by
  have valid : c.toNat.isValidChar := c.valid
  rw [charOfCode?, if_pos valid, Char.ofNat_toNat]

end CommentDocs.Text
