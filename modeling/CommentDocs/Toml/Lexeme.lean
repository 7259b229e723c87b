import CommentDocs.Text.Hex

/-!
# Strings, blanks and comments in TOML

A basic string stands between double quotes and has escapes; a literal string stands
between single quotes and has none. Three quotes open a string of several lines. Control
characters other than the tab occur in no string and no comment.
-/

namespace CommentDocs.Toml

open Text

/-- Blanks inside a line. -/
def isSpace (c : Char) : Bool :=
  c = ' ' || c = '\t'

/-- Blanks and line ends. -/
def isSpaceOrNewline (c : Char) : Bool :=
  isSpace c || c = '\n'

/-- Control characters that occur in no string and no comment. -/
def isForbidden (c : Char) : Bool :=
  (c.toNat < 0x20 && c ≠ '\t') || c.toNat = 0x7F

/-- Drop the blanks at the start. -/
def skipSpaces (text : Text) : Text :=
  text.dropWhile isSpace

/-- Drop the comment at the start, up to the end of its line. -/
def skipComment? : Text → Option Text
  | '#' :: rest =>
    if (rest.takeWhile (· ≠ '\n')).any isForbidden then none else some (rest.dropWhile (· ≠ '\n'))
  | text => some text

def shortEscape? : Char → Option Char
  | 'b' => some '\x08'
  | 't' => some '\t'
  | 'n' => some '\n'
  | 'f' => some '\x0c'
  | 'r' => some '\r'
  | '"' => some '"'
  | '\\' => some '\\'
  | _ => none

def codeEscape? (digits : Text) : Option Char :=
  (hexValue? digits).bind charOfCode?

/-- What follows the line end after a backslash: further blanks and line ends belong to the
same escape. A backslash before blanks must be the last one on its line. -/
def joinLines? (text : Text) : Option Text :=
  match text with
  | '\n' :: rest => some (rest.dropWhile isSpaceOrNewline)
  | _ =>
    match skipSpaces text with
    | [] => some []
    | '\n' :: rest => some (rest.dropWhile isSpaceOrNewline)
    | _ => none

/-- The characters of the escape after a backslash, and what follows it. -/
def escape? (multiline : Bool) (text : Text) : Option (Text × Text) :=
  match text with
  | 'u' :: rest =>
    if (rest.take 4).length = 4 then
      (codeEscape? (rest.take 4)).map fun c => ([c], rest.drop 4)
    else none
  | 'U' :: rest =>
    if (rest.take 8).length = 8 then
      (codeEscape? (rest.take 8)).map fun c => ([c], rest.drop 8)
    else none
  | c :: rest =>
    if multiline && isSpaceOrNewline c then (joinLines? (c :: rest)).map ([], ·)
    else (shortEscape? c).map fun c => ([c], rest)
  | [] => none

theorem length_of_joinLines? {text rest : Text} (h : joinLines? text = some rest) :
    rest.length ≤ text.length := by
  have trimmed (p : Char → Bool) (l : Text) : (l.dropWhile p).length ≤ l.length :=
    (List.dropWhile_suffix p).length_le
  unfold joinLines? at h
  split at h
  · next tail => have := trimmed isSpaceOrNewline tail; grind
  · have := trimmed isSpace text
    unfold skipSpaces at h
    split at h
    · grind
    · next tail eq => have := trimmed isSpaceOrNewline tail; grind
    · simp at h

theorem length_of_escape? {multiline : Bool} {text chars rest : Text}
    (h : escape? multiline text = some (chars, rest)) : rest.length ≤ text.length := by
  have snd_of_map {α : Type} {o : Option α} {f : α → Text} {l : Text}
      (eq : (o.map fun a => (f a, l)) = some (chars, rest)) : l = rest := by
    obtain ⟨_, _, pair⟩ := Option.map_eq_some_iff.1 eq
    exact (Prod.mk.inj pair).2
  unfold escape? at h
  split at h
  · split at h
    · simp [← snd_of_map h]; omega
    · simp at h
  · split at h
    · simp [← snd_of_map h]; omega
    · simp at h
  · split at h
    · obtain ⟨after, joined, pair⟩ := Option.map_eq_some_iff.1 h
      rw [← (Prod.mk.inj pair).2]
      exact length_of_joinLines? joined
    · simp [← snd_of_map h]
  · simp at h

/-- The rest of a basic string on one line: its characters and what follows its end. -/
def basicTail? (text : Text) : Option (Text × Text) :=
  match text with
  | [] => none
  | '"' :: rest => some ([], rest)
  | '\\' :: rest =>
    match _h : escape? false rest with
    | some (chars, after) =>
      (basicTail? after).map fun (tail, final) => (chars ++ tail, final)
    | none => none
  | c :: rest =>
    if isForbidden c then none
    else (basicTail? rest).map fun (tail, final) => (c :: tail, final)
termination_by text.length
decreasing_by
  · have := length_of_escape? _h
    simp; omega
  · simp

/-- The rest of a basic string of several lines. Two further quotes may stand before the
three that end it. -/
def basicLinesTail? (text : Text) : Option (Text × Text) :=
  match text with
  | [] => none
  | '"' :: '"' :: '"' :: '"' :: '"' :: rest => some (['"', '"'], rest)
  | '"' :: '"' :: '"' :: '"' :: rest => some (['"'], rest)
  | '"' :: '"' :: '"' :: rest => some ([], rest)
  | '\\' :: rest =>
    match _h : escape? true rest with
    | some (chars, after) =>
      (basicLinesTail? after).map fun (tail, final) => (chars ++ tail, final)
    | none => none
  | c :: rest =>
    if isForbidden c && c ≠ '\n' then none
    else (basicLinesTail? rest).map fun (tail, final) => (c :: tail, final)
termination_by text.length
decreasing_by
  · have := length_of_escape? _h
    simp; omega
  · simp

def literalTail? : Text → Option (Text × Text)
  | [] => none
  | '\'' :: rest => some ([], rest)
  | c :: rest =>
    if isForbidden c then none
    else (literalTail? rest).map fun (tail, final) => (c :: tail, final)

def literalLinesTail? : Text → Option (Text × Text)
  | [] => none
  | '\'' :: '\'' :: '\'' :: '\'' :: '\'' :: rest => some (['\'', '\''], rest)
  | '\'' :: '\'' :: '\'' :: '\'' :: rest => some (['\''], rest)
  | '\'' :: '\'' :: '\'' :: rest => some ([], rest)
  | c :: rest =>
    if isForbidden c && c ≠ '\n' then none
    else (literalLinesTail? rest).map fun (tail, final) => (c :: tail, final)

/-- Drop the newline that may follow an opening of three quotes. -/
def skipNewline : Text → Text
  | '\n' :: rest => rest
  | text => text

def string? : Text → Option (Text × Text)
  | '"' :: '"' :: '"' :: rest => basicLinesTail? (skipNewline rest)
  | '"' :: rest => basicTail? rest
  | '\'' :: '\'' :: '\'' :: rest => literalLinesTail? (skipNewline rest)
  | '\'' :: rest => literalTail? rest
  | _ => none

def isBareKeyChar (c : Char) : Bool :=
  c.isAlphanum || c = '-' || c = '_'

/-- One part of a dotted key, and what follows it. -/
def keyPart? : Text → Option (Text × Text)
  | '"' :: rest => basicTail? rest
  | '\'' :: rest => literalTail? rest
  | text =>
    match text.takeWhile isBareKeyChar with
    | [] => none
    | part => some (part, text.dropWhile isBareKeyChar)

/-- A dotted key, and what follows it and the blanks after it; `fuel` bounds the number of
parts. -/
def keyParts? : (fuel : Nat) → Text → Option (List Text × Text)
  | 0, _ => none
  | fuel + 1, text =>
    match keyPart? text with
    | none => none
    | some (part, rest) =>
      match skipSpaces rest with
      | '.' :: more =>
        (keyParts? fuel (skipSpaces more)).map fun (parts, final) => (part :: parts, final)
      | final => some ([part], final)

/-- A dotted key, and what follows it and the blanks after it. -/
def key? (text : Text) : Option (List Text × Text) :=
  keyParts? (text.length + 1) text

end CommentDocs.Toml
