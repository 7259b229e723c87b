/-!
# Texts as sequences of code points

Every position in this library counts code points, so a text is the list of its
characters: a cut at a position is `take` and `drop`, and a fact about a text is
proved by induction on it. This module holds the few operations that the rest
shares. Splitting at a character and joining with it undo each other.
-/

namespace CommentDocs

/-- A sequence of Unicode code points. -/
abbrev Text := List Char

namespace Text

/-- The pieces of a text between the occurrences of `separator`, never none. -/
def splitOn (separator : Char) : Text → List Text
  | [] => [[]]
  | c :: rest =>
    if c = separator then [] :: splitOn separator rest
    else
      match splitOn separator rest with
      | [] => [[c]]
      | piece :: pieces => (c :: piece) :: pieces

/-- Put `separator` between consecutive pieces. -/
def joinWith (separator : Char) : List Text → Text
  | [] => []
  | [piece] => piece
  | piece :: next :: pieces => piece ++ separator :: joinWith separator (next :: pieces)

theorem splitOn_ne_nil (separator : Char) (text : Text) : splitOn separator text ≠ [] := by
  cases text with
  | nil => simp [splitOn]
  | cons c rest => grind [splitOn]

@[simp] theorem joinWith_splitOn (separator : Char) (text : Text) :
    joinWith separator (splitOn separator text) = text := by
  induction text with
  | nil => rfl
  | cons c rest ih =>
    have nonempty := splitOn_ne_nil separator rest
    cases pieces : splitOn separator rest with
    | nil => exact absurd pieces nonempty
    | cons piece others =>
      rw [pieces] at ih
      by_cases h : c = separator
      · simp [splitOn, h, pieces, joinWith, ih]
      · cases others with
        | nil => simp_all [splitOn, joinWith]
        | cons next more => simp_all [splitOn, joinWith]

theorem joinWith_concat (separator : Char) {pieces : List Text} (h : pieces ≠ []) (last : Text) :
    joinWith separator (pieces ++ [last]) = joinWith separator pieces ++ separator :: last := by
  induction pieces with
  | nil => exact absurd rfl h
  | cons piece rest ih =>
    cases rest with
    | nil => rfl
    | cons next more =>
      simp only [List.cons_append, joinWith, List.append_assoc]
      rw [← List.cons_append, ih (List.cons_ne_nil _ _)]

theorem splitOn_of_notMem {separator : Char} {piece : Text} (free : separator ∉ piece) :
    splitOn separator piece = [piece] := by
  induction piece with
  | nil => rfl
  | cons c piece ih =>
    rw [List.mem_cons, not_or] at free
    simp [splitOn, ih free.2, Ne.symm free.1]

theorem splitOn_append {separator : Char} (piece rest : Text) (free : separator ∉ piece) :
    splitOn separator (piece ++ separator :: rest) = piece :: splitOn separator rest := by
  induction piece with
  | nil => simp [splitOn]
  | cons c piece ih =>
    rw [List.mem_cons, not_or] at free
    simp [splitOn, ih free.2, Ne.symm free.1]

/-- A beginning without the separator belongs to the first piece. -/
theorem splitOn_append_left {separator : Char} {first : Text} (free : separator ∉ first)
    (rest : Text) : ∃ piece pieces, splitOn separator rest = piece :: pieces ∧
      splitOn separator (first ++ rest) = (first ++ piece) :: pieces := by
  induction first with
  | nil =>
    obtain ⟨piece, pieces, found⟩ := List.exists_cons_of_ne_nil (splitOn_ne_nil separator rest)
    exact ⟨piece, pieces, found, found⟩
  | cons c first ih =>
    rw [List.mem_cons, not_or] at free
    obtain ⟨piece, pieces, found, whole⟩ := ih free.2
    exact ⟨piece, pieces, found, by simp [splitOn, Ne.symm free.1, whole]⟩

theorem splitOn_concat (separator : Char) (text : Text) :
    splitOn separator (text ++ [separator]) = splitOn separator text ++ [[]] := by
  induction text with
  | nil => simp [splitOn]
  | cons c rest ih =>
    obtain ⟨piece, pieces, found⟩ := List.exists_cons_of_ne_nil (splitOn_ne_nil separator rest)
    by_cases h : c = separator <;> simp [splitOn, h, ih, found]

/-- No piece contains the separator. -/
theorem notMem_of_mem_splitOn {separator : Char} {text piece : Text}
    (mem : piece ∈ splitOn separator text) : separator ∉ piece := by
  induction text generalizing piece with
  | nil => simp_all [splitOn]
  | cons c rest ih =>
    obtain ⟨first, pieces, found⟩ := List.exists_cons_of_ne_nil (splitOn_ne_nil separator rest)
    by_cases h : c = separator
    · simp only [splitOn, h, if_true, List.mem_cons] at mem
      rcases mem with rfl | mem
      · exact List.not_mem_nil
      · exact ih mem
    · simp only [splitOn, h, if_false, found, List.mem_cons] at mem
      rcases mem with rfl | mem
      · rw [List.mem_cons, not_or]
        exact ⟨Ne.symm h, ih (found ▸ List.mem_cons_self)⟩
      · exact ih (found ▸ List.mem_cons_of_mem _ mem)

/-- Pieces without the separator come back from the text that they are joined to. -/
theorem splitOn_joinWith {separator : Char} {pieces : List Text} (nonempty : pieces ≠ [])
    (free : ∀ piece ∈ pieces, separator ∉ piece) :
    splitOn separator (joinWith separator pieces) = pieces := by
  induction pieces with
  | nil => exact absurd rfl nonempty
  | cons piece rest ih =>
    have head := free piece List.mem_cons_self
    cases rest with
    | nil => exact splitOn_of_notMem head
    | cons next more =>
      rw [joinWith, splitOn_append _ _ head,
        ih (List.cons_ne_nil _ _) fun other mem => free other (List.mem_cons_of_mem _ mem)]

/-- A joined text ends as its last piece does. -/
theorem getLast?_joinWith (separator : Char) {pieces : List Text} {last : Text} {c : Char}
    (ends : pieces.getLast? = some last) (visible : last.getLast? = some c) :
    (joinWith separator pieces).getLast? = some c := by
  obtain ⟨before, rfl⟩ := List.getLast?_eq_some_iff.mp ends
  by_cases first : before = []
  · subst first
    exact visible
  · obtain ⟨start, rfl⟩ := List.getLast?_eq_some_iff.mp visible
    rw [joinWith_concat separator first, ← List.cons_append, ← List.append_assoc,
      List.getLast?_concat]

theorem length_le_length_joinWith (separator : Char) (pieces : List Text) :
    pieces.length ≤ (joinWith separator pieces).length + 1 := by
  induction pieces with
  | nil => exact Nat.zero_le _
  | cons piece rest ih =>
    cases rest with
    | nil => simp
    | cons next more =>
      simp only [joinWith, List.length_append, List.length_cons] at ih ⊢
      omega

/-- Drop the longest ending whose characters all satisfy `p`. -/
def dropWhileEnd (p : Char → Bool) (text : Text) : Text :=
  (text.reverse.dropWhile p).reverse

theorem dropWhileEnd_append {p : Char → Bool} {ending : Text} (all : ∀ c ∈ ending, p c = true)
    (text : Text) : dropWhileEnd p (text ++ ending) = dropWhileEnd p text := by
  rw [dropWhileEnd, List.reverse_append,
    List.dropWhile_append_of_pos fun c mem => all c (List.mem_reverse.mp mem), dropWhileEnd]

/-- A text whose last character is kept is kept whole. -/
theorem dropWhileEnd_of_kept {p : Char → Bool} {text : Text}
    (kept : ∀ c ∈ text.getLast?, p c = false) : dropWhileEnd p text = text := by
  cases last : text.getLast? with
  | none =>
    rw [List.getLast?_eq_none_iff.mp last]
    rfl
  | some c =>
    obtain ⟨before, rfl⟩ := List.getLast?_eq_some_iff.mp last
    have stops : ¬ p c = true := by simp [kept c (Option.mem_def.mpr last)]
    rw [dropWhileEnd, List.reverse_append, List.reverse_singleton, List.singleton_append,
      List.dropWhile_cons_of_neg stops, List.reverse_cons, List.reverse_reverse]

/-- `text` without `ending`, when it ends so. -/
def dropSuffix (ending text : Text) : Text :=
  if ending.isSuffixOf text then text.take (text.length - ending.length) else text

@[simp] theorem dropSuffix_append (ending text : Text) :
    dropSuffix ending (text ++ ending) = text := by
  simp [dropSuffix]

theorem dropSuffix_of_not_suffix {ending text : Text} (h : ¬ ending <:+ text) :
    dropSuffix ending text = text := by
  simp [dropSuffix, h]

/-- Only the last character decides whether a text ends in `c`. -/
theorem dropSuffix_append_of_ne_nil {c : Char} (first : Text) {rest : Text} (nonempty : rest ≠ []) :
    dropSuffix [c] (first ++ rest) = first ++ dropSuffix [c] rest := by
  obtain ⟨rest, last, rfl⟩ : ∃ before last, rest = before ++ [last] :=
    ⟨_, _, (List.dropLast_concat_getLast nonempty).symm⟩
  by_cases same : last = c
  · subst same
    rw [← List.append_assoc, dropSuffix_append, dropSuffix_append]
  · have other (text : Text) : ¬ [c] <:+ text ++ [last] := fun ⟨before, eq⟩ =>
      same (List.cons.inj (List.append_inj_right' eq rfl)).1.symm
    rw [dropSuffix_of_not_suffix (other rest), ← List.append_assoc,
      dropSuffix_of_not_suffix (other _)]

/-- Whether a text ends in `c` is decided by its last part, unless an earlier one has `c`. -/
theorem dropSuffix_singleton_append {c : Char} {first : Text} (free : c ∉ first) (rest : Text) :
    dropSuffix [c] (first ++ rest) = first ++ dropSuffix [c] rest := by
  cases rest with
  | nil =>
    have other : ¬ [c] <:+ first := fun h => free (h.subset List.mem_cons_self)
    simp [dropSuffix, other]
  | cons d rest => exact dropSuffix_append_of_ne_nil first (List.cons_ne_nil d rest)

/-- The ending of a text stands behind every other character. -/
theorem dropSuffix_append_cons {c d : Char} (other : d ≠ c) (first rest : Text) :
    dropSuffix [c] (first ++ d :: rest) = first ++ d :: dropSuffix [c] rest := by
  have free : c ∉ [d] := fun mem => other (List.mem_singleton.mp mem).symm
  rw [dropSuffix_append_of_ne_nil first (List.cons_ne_nil d rest)]
  exact congrArg (first ++ ·) (dropSuffix_singleton_append free rest)

/-- The characters from position `start` up to `stop`; positions past the end are clamped. -/
def slice (text : Text) (start stop : Nat) : Text :=
  (text.take stop).drop start

/-- A line added below `current`; an empty text has no first line to keep. -/
def appendLine (current line : Text) : Text :=
  if current.isEmpty then line else current ++ '\n' :: line

/-- Lower-case the Latin capitals and keep every other character. -/
def lowerAscii (text : Text) : Text :=
  text.map Char.toLower

def occurrences (c : Char) (text : Text) : Nat :=
  text.countP (· = c)

/-- Code point order, a proper beginning first. -/
def precedes : Text → Text → Bool
  | _, [] => false
  | [], _ :: _ => true
  | c :: rest, d :: others => c.val < d.val || (c = d && precedes rest others)

theorem precedes_iff_lt {first second : Text} : precedes first second = true ↔ first < second := by
  fun_induction precedes first second with
  | case1 => simp
  | case2 => simp
  | case3 c rest d others ih => simp [ih, List.cons_lt_cons_iff, Char.lt_def]

end Text

end CommentDocs
