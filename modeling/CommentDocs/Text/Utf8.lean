import CommentDocs.Text.Hex

/-!
# UTF-8

Bytes are decoded one at a time: a first byte announces how many bytes follow and between
which bounds the next one lies, which rules out overlong forms and surrogates. Bytes that
are not UTF-8 are refused with the range of the offending ones.
-/

namespace CommentDocs.Utf8

/-- Raw content of a file. -/
abbrev Bytes := List UInt8

def encode (text : Text) : Bytes :=
  text.flatMap String.utf8EncodeChar

/-- What is wrong with offending bytes. -/
inductive Reason where
  | badStart
  | badContinuation
  | truncated
  deriving DecidableEq, Repr

def Reason.message : Reason → Text
  | .badStart => "invalid start byte".toList
  | .badContinuation => "invalid continuation byte".toList
  | .truncated => "unexpected end of data".toList

/-- Bytes that are not UTF-8: the positions of the first one and past the last one. -/
structure Fault where
  start : Nat
  stop : Nat
  first : UInt8
  reason : Reason
  deriving DecidableEq, Repr

def Fault.message (fault : Fault) : Text :=
  let range :=
    if fault.stop = fault.start + 1 then
      "byte 0x".toList ++ Text.hex 2 fault.first.toNat ++ " in position ".toList ++
        (toString fault.start).toList
    else
      "bytes in position ".toList ++ (toString fault.start).toList ++ '-' ::
        (toString (fault.stop - 1)).toList
  "'utf-8' codec can't decode ".toList ++ range ++ ": ".toList ++ fault.reason.message

/-- A character of which some bytes are still missing. -/
structure Unfinished where
  start : Nat
  first : UInt8
  code : Nat
  missing : Nat
  low : UInt8 := 0x80
  high : UInt8 := 0xBF
  deriving DecidableEq, Repr

/-- The character that a first byte above ASCII announces. -/
def announced? (start : Nat) (first : UInt8) : Option Unfinished :=
  let bits (lead : UInt8) : Nat := (first - lead).toNat
  if first < 0xC2 then none
  else if first < 0xE0 then some { start, first, code := bits 0xC0, missing := 1 }
  else if first = 0xE0 then some { start, first, code := 0, missing := 2, low := 0xA0 }
  else if first = 0xED then some { start, first, code := bits 0xE0, missing := 2, high := 0x9F }
  else if first < 0xF0 then some { start, first, code := bits 0xE0, missing := 2 }
  else if first = 0xF0 then some { start, first, code := 0, missing := 3, low := 0x90 }
  else if first < 0xF4 then some { start, first, code := bits 0xF0, missing := 3 }
  else if first = 0xF4 then some { start, first, code := bits 0xF0, missing := 3, high := 0x8F }
  else none

/-- The code point so far, after one more byte. -/
def Unfinished.extended (char : Unfinished) (byte : UInt8) : Nat :=
  char.code * 64 + (byte - 0x80).toNat

/-- Decode the bytes from a position on, in the middle of a character or before one. -/
def decodeFrom (position : Nat) : Option Unfinished → Bytes → Except Fault Text
  | none, [] => .ok []
  | some char, [] => .error ⟨char.start, position, char.first, .truncated⟩
  | none, byte :: rest =>
    if byte < 0x80 then (Char.ofNat byte.toNat :: ·) <$> decodeFrom (position + 1) none rest
    else
      match announced? position byte with
      | some char => decodeFrom (position + 1) (some char) rest
      | none => .error ⟨position, position + 1, byte, .badStart⟩
  | some char, byte :: rest =>
    if char.low ≤ byte && byte ≤ char.high then
      if char.missing = 1 then
        (Char.ofNat (char.extended byte) :: ·) <$> decodeFrom (position + 1) none rest
      else
        let next := { char with
          code := char.extended byte, missing := char.missing - 1, low := 0x80, high := 0xBF }
        decodeFrom (position + 1) (some next) rest
    else .error ⟨char.start, position, char.first, .badContinuation⟩

def decode (bytes : Bytes) : Except Fault Text :=
  decodeFrom 0 none bytes

end CommentDocs.Utf8
