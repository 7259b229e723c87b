import CommentDocs.Text.Basic

/-!
# Blank characters

Two classes of blanks occur. Comment text uses `isBlank`, in which the four
information separators U+001C to U+001F count as blanks; settings are trimmed of
`isMargin` characters, which leave those four in place.
-/

namespace CommentDocs.Text

/-- Characters that are trimmed from settings. -/
def isMargin (c : Char) : Bool :=
  let n := c.toNat
  (9 ≤ n && n ≤ 13) || n = 0x20 || n = 0x85 || n = 0xA0 || n = 0x1680 ||
  (0x2000 ≤ n && n ≤ 0x200A) || n = 0x2028 || n = 0x2029 || n = 0x202F || n = 0x205F ||
  n = 0x3000

/-- Characters that separate words and form indentation in comment text. -/
def isBlank (c : Char) : Bool :=
  isMargin c || (0x1C ≤ c.toNat && c.toNat ≤ 0x1F)

def trimStart (text : Text) : Text :=
  text.dropWhile isBlank

def trimEnd (text : Text) : Text :=
  dropWhileEnd isBlank text

def trim (text : Text) : Text :=
  trimEnd (trimStart text)

/-- A text that starts with no blank has nothing to drop. -/
theorem trimStart_of_visible {text : Text} (visible : ∀ c ∈ text.head?, isBlank c = false) :
    trimStart text = text := by
  cases text with
  | nil => rfl
  | cons c text => exact List.dropWhile_cons_of_neg (by simp [visible c rfl])

theorem trimStart_append {blanks : Text} (blank : ∀ c ∈ blanks, isBlank c = true) (rest : Text) :
    trimStart (blanks ++ rest) = trimStart rest :=
  List.dropWhile_append_of_pos blank

/-- Blanks in front of other characters are all of the blanks. -/
theorem trimStart_append_of_visible {blanks rest : Text} (blank : ∀ c ∈ blanks, isBlank c = true)
    (visible : ∀ c ∈ rest.head?, isBlank c = false) : trimStart (blanks ++ rest) = rest :=
  (trimStart_append blank rest).trans (trimStart_of_visible visible)

/-- No blank is left at the start. -/
theorem isBlank_of_head?_trimStart {text : Text} :
    ∀ c ∈ (trimStart text).head?, isBlank c = false := by
  intro c first
  have stops := List.head?_dropWhile_not isBlank text
  rw [← trimStart, Option.mem_def.mp first] at stops
  simpa using stops

theorem trimStart_trimStart (text : Text) : trimStart (trimStart text) = trimStart text :=
  trimStart_of_visible isBlank_of_head?_trimStart

/-- A text is the blanks at its start and the rest. -/
theorem exists_blanks (text : Text) :
    ∃ blanks, text = blanks ++ trimStart text ∧ ∀ c ∈ blanks, isBlank c = true :=
  ⟨text.takeWhile isBlank, List.takeWhile_append_dropWhile.symm,
    List.all_eq_true.mp List.all_takeWhile⟩

/-- Blanks behind other characters are all of the blanks at the end. -/
theorem trimEnd_append {text blanks : Text} (visible : ∀ c ∈ text.getLast?, isBlank c = false)
    (blank : ∀ c ∈ blanks, isBlank c = true) : trimEnd (text ++ blanks) = text := by
  rw [trimEnd, dropWhileEnd_append blank, dropWhileEnd_of_kept visible]

theorem mem_of_mem_trim {c : Char} {text : Text} (mem : c ∈ trim text) : c ∈ text := by
  have kept : c ∈ (trimStart text).reverse :=
    List.dropWhile_sublist isBlank |>.subset (List.mem_reverse.mp mem)
  exact (List.dropWhile_sublist isBlank).subset (List.mem_reverse.mp kept)

def allBlank (text : Text) : Bool :=
  text.all isBlank

/-- The maximal runs of characters other than blanks, from left to right. -/
def words : Text → List Text
  | [] => []
  | c :: rest =>
    if isBlank c then words rest
    else
      match rest with
      | [] => [[c]]
      | next :: _ =>
        if isBlank next then [c] :: words rest
        else
          match words rest with
          | [] => [[c]]
          | word :: others => (c :: word) :: others

end CommentDocs.Text
