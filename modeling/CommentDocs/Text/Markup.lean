import CommentDocs.Text.Basic

/-!
# Marked-up text

Markup chooses styles by tags: a tag is a lower-case word, or one of `#`, `/` and `@` with
what follows, in square brackets. A backslash right before a tag turns it into plain text,
and two backslashes there stand for one. Before any other opening bracket a backslash is
dropped. Reading markup gives its pieces: plain texts and tags.

What is shown of markup is its plain text. A text without backslashes is shown as it is once it
is escaped, also in a style (`shown_escape`, `shown_styled_append`). A single
backslash before a bracket that opens no tag gets lost.
-/

namespace CommentDocs.Markup

/-- What may follow the opening bracket of a tag. -/
def opensTag (c : Char) : Bool :=
  ('a' ≤ c && c ≤ 'z') || c = '#' || c = '/' || c = '@'

def startsWithTag : Text → Bool
  | '[' :: c :: rest =>
    opensTag c && (rest.dropWhile fun d => d ≠ '[' && d ≠ ']').head? = some ']'
  | _ => false

def backslashes (count : Nat) : Text :=
  List.replicate count '\\'

/-- Escape the tags of a text after `count` backslashes. -/
def escapeFrom (count : Nat) : Text → Text
  | [] => backslashes (if count = 1 then 2 else count)
  | '\\' :: rest => escapeFrom (count + 1) rest
  | c :: rest =>
    backslashes (if startsWithTag (c :: rest) then 2 * count + 1 else count) ++
      c :: escapeFrom 0 rest

/-- The markup for a plain text. A single backslash at its end is doubled, so that it does
not escape a tag that follows. -/
def escape (text : Text) : Text :=
  escapeFrom 0 text

def styled (style text : Text) : Text :=
  '[' :: style ++ ']' :: escape text ++ '[' :: '/' :: style ++ [']']

/-- A piece of marked-up text: plain text, or a tag that opens a style or ends one. -/
inductive Piece where
  | text (text : Text)
  | openTag
  | closeTag
  deriving DecidableEq, Repr

/-- The piece for a plain text that was read backwards; none for an empty one. -/
def plain (reversed : Text) : List Piece :=
  if reversed.isEmpty then [] else [.text reversed.reverse]

/-- Where a reader of markup is: behind a run of backslashes, or inside a tag, which may be
an escaped one. -/
inductive Position where
  | behind (backslashes : Nat)
  | insideTag
  | insideEscaped
  deriving DecidableEq, Repr

/-- The pieces of markup from a position on, after the plain text that was read backwards as
`seen`. -/
def piecesFrom (seen : Text) : Position → Text → List Piece
  | .behind count, [] => plain (backslashes count ++ seen)
  | .insideTag, [] => []
  | .insideEscaped, [] => plain seen
  | .insideTag, c :: rest =>
    piecesFrom [] (if c = ']' then .behind 0 else .insideTag) rest
  | .insideEscaped, c :: rest =>
    if c = ']' then plain (c :: seen) ++ piecesFrom [] (.behind 0) rest
    else piecesFrom (c :: seen) .insideEscaped rest
  | .behind count, c :: rest =>
    if c = '\\' then piecesFrom seen (.behind (count + 1)) rest
    else if startsWithTag (c :: rest) then
      plain seen ++ plain (backslashes (count / 2)) ++
        if count % 2 = 1 then piecesFrom [c] .insideEscaped rest
        else
          (if rest.head? = some '/' then .closeTag else .openTag) ::
            piecesFrom [] .insideTag rest
    else
      let kept := backslashes (if c = '[' then count - 1 else count)
      piecesFrom (c :: kept ++ seen) (.behind 0) rest

/-- The pieces of markup in order. What is in front of a tag, the backslashes right before
it, and an escaped tag are pieces of their own. -/
def pieces (markup : Text) : List Piece :=
  piecesFrom [] (.behind 0) markup

def Piece.shown : Piece → Text
  | .text content => content
  | .openTag | .closeTag => []

def shownFrom (position : Position) (markup : Text) : Text :=
  (piecesFrom [] position markup).flatMap Piece.shown

def shown (markup : Text) : Text :=
  shownFrom (.behind 0) markup

theorem flatMap_shown_plain (reversed : Text) :
    (plain reversed).flatMap Piece.shown = reversed.reverse := by
  cases reversed <;> simp [plain, Piece.shown]

/-- What was read before comes first. -/
theorem flatMap_shown_piecesFrom (seen : Text) (position : Position)
    (outside : position ≠ .insideTag) (markup : Text) :
    (piecesFrom seen position markup).flatMap Piece.shown =
      seen.reverse ++ shownFrom position markup := by
  induction markup generalizing seen position with
  | nil =>
    cases position with
    | insideTag => exact absurd rfl outside
    | behind count => simp [shownFrom, piecesFrom, flatMap_shown_plain]
    | insideEscaped => simp [shownFrom, piecesFrom, flatMap_shown_plain]
  | cons c rest ih =>
    cases position with
    | insideTag => exact absurd rfl outside
    | insideEscaped =>
      unfold shownFrom
      rw [piecesFrom, piecesFrom]
      split
      · simp [flatMap_shown_plain]
      · rw [ih (c :: seen) _ outside, ih [c] _ outside]
        simp
    | behind count =>
      unfold shownFrom
      rw [piecesFrom, piecesFrom]
      split
      · exact ih seen (.behind (count + 1)) nofun
      · split
        · simp [flatMap_shown_plain]
        · dsimp only
          rw [ih _ (.behind 0) nofun, ih _ (.behind 0) nofun]
          simp

section Reading

variable {c : Char} {rest : Text}

theorem shown_cons_of_plain (smooth : c ≠ '\\') (plain : startsWithTag (c :: rest) = false) :
    shown (c :: rest) = c :: shown rest := by
  have none : backslashes (if c = '[' then 0 - 1 else 0) = [] := by split <;> rfl
  unfold shown shownFrom
  rw [piecesFrom, if_neg smooth, plain, if_neg Bool.false_ne_true]
  dsimp only
  rw [none, flatMap_shown_piecesFrom _ (.behind 0) nofun]
  rfl

/-- Text without brackets and backslashes is shown as it is. -/
theorem shown_append_of_plain {text : Text} (plain : '[' ∉ text ∧ '\\' ∉ text) :
    shown (text ++ rest) = text ++ shown rest := by
  obtain ⟨opening, smooth⟩ := plain
  induction text with
  | nil => rfl
  | cons c text ih =>
    have other := (List.ne_of_not_mem_cons opening).symm
    rw [List.cons_append, shown_cons_of_plain (List.ne_of_not_mem_cons smooth).symm,
      List.cons_append, ih (List.not_mem_of_not_mem_cons opening)
        (List.not_mem_of_not_mem_cons smooth)]
    cases text ++ rest <;> simp [startsWithTag, other]

theorem shown_cons_of_tag (smooth : c ≠ '\\') (tag : startsWithTag (c :: rest) = true) :
    shown (c :: rest) = shownFrom .insideTag rest := by
  unfold shown shownFrom
  rw [piecesFrom, if_neg smooth, if_pos tag, show 0 / 2 = 0 from rfl,
    if_neg (by decide : ¬0 % 2 = 1)]
  change ((if rest.head? = some '/' then Piece.closeTag else .openTag) :: _).flatMap _ = _
  split <;> rfl

theorem shown_escaped_tag (smooth : c ≠ '\\') (tag : startsWithTag (c :: rest) = true) :
    shown ('\\' :: c :: rest) = c :: shownFrom .insideEscaped rest := by
  unfold shown shownFrom
  rw [piecesFrom, if_pos rfl, piecesFrom, if_neg smooth, if_pos tag, if_pos rfl]
  exact flatMap_shown_piecesFrom [c] .insideEscaped nofun rest

theorem shownFrom_insideTag_cons (c : Char) (rest : Text) :
    shownFrom .insideTag (c :: rest) =
      if c = ']' then shown rest else shownFrom .insideTag rest := by
  unfold shown shownFrom
  rw [piecesFrom]
  split <;> rfl

theorem shownFrom_insideEscaped_cons (c : Char) (rest : Text) :
    shownFrom .insideEscaped (c :: rest) =
      c :: if c = ']' then shown rest else shownFrom .insideEscaped rest := by
  unfold shown shownFrom
  rw [piecesFrom]
  split
  · rw [List.flatMap_append, flatMap_shown_plain]
    rfl
  · exact flatMap_shown_piecesFrom [c] .insideEscaped nofun rest

end Reading

/-- The first bracket of a text is a closing one. -/
def ClosesFirst (text : Text) : Prop :=
  (text.dropWhile fun d => d ≠ '[' && d ≠ ']').head? = some ']'

/-- The first character of a text may follow the opening bracket of a tag. -/
def ContinuesTag (text : Text) : Prop :=
  ∃ d ∈ text.head?, opensTag d = true

theorem closesFirst_cons (c : Char) (text : Text) :
    ClosesFirst (c :: text) ↔ c = ']' ∨ c ≠ '[' ∧ ClosesFirst text := by
  unfold ClosesFirst
  by_cases closing : c = ']'
  · simp [closing]
  · by_cases opening : c = '[' <;> simp [closing, opening]

theorem startsWithTag_cons (c : Char) (text : Text) :
    startsWithTag (c :: text) = true ↔ c = '[' ∧ ContinuesTag text ∧ ClosesFirst text := by
  by_cases opening : c = '['
  · subst opening
    cases text with
    | nil => simp [startsWithTag, ContinuesTag]
    | cons d rest =>
      have plain (continues : opensTag d = true) : d ≠ '[' ∧ d ≠ ']' := by
        constructor <;> (rintro rfl; revert continues; decide)
      simp only [startsWithTag, ContinuesTag, List.head?_cons, Option.mem_some_iff, exists_eq_left',
        closesFirst_cons, Bool.and_eq_true, decide_eq_true_eq, true_and]
      refine and_congr_right fun continues => ?_
      rw [or_iff_right (plain continues).2, and_iff_right (plain continues).1]
      exact Iff.rfl
  · simp [startsWithTag, opening]

/-- What follows a text is nothing or starts with an opening bracket, as a tag does. -/
def OpensOrEnds (rest : Text) : Prop :=
  ∀ c ∈ rest.head?, c = '['

section Escaped

variable {text rest : Text} {c : Char}

theorem escape_cons (smooth : c ≠ '\\') (text : Text) :
    escape (c :: text) =
      if startsWithTag (c :: text) then '\\' :: c :: escape text else c :: escape text := by
  rw [escape, escapeFrom]
  · split <;> rfl
  · exact smooth

variable (smooth : '\\' ∉ text) (next : OpensOrEnds rest)

include smooth next

theorem closesFirst_escape : ClosesFirst (escape text ++ rest) ↔ ClosesFirst text := by
  induction text with
  | nil =>
    cases rest with
    | nil => exact Iff.rfl
    | cons c rest =>
      cases next c rfl
      simp [escape, escapeFrom, backslashes, ClosesFirst]
  | cons c text ih =>
    rw [escape_cons (List.ne_of_not_mem_cons smooth).symm]
    split
    · rename_i tag
      obtain ⟨rfl, -, -⟩ := (startsWithTag_cons c text).mp tag
      simp [closesFirst_cons]
    · rw [List.cons_append, closesFirst_cons, ih (List.not_mem_of_not_mem_cons smooth),
        ← closesFirst_cons]

theorem continuesTag_escape : ContinuesTag (escape text ++ rest) ↔ ContinuesTag text := by
  cases text with
  | nil =>
    cases rest with
    | nil => exact Iff.rfl
    | cons c rest =>
      cases next c rfl
      simp [escape, escapeFrom, backslashes, ContinuesTag, opensTag]
  | cons c text =>
    rw [escape_cons (List.ne_of_not_mem_cons smooth).symm]
    split
    · rename_i tag
      obtain ⟨rfl, -, -⟩ := (startsWithTag_cons c text).mp tag
      simp [ContinuesTag, opensTag]
    · simp [ContinuesTag]

/-- A tag is found where it was. -/
theorem startsWithTag_escape (c : Char) :
    startsWithTag (c :: (escape text ++ rest)) = startsWithTag (c :: text) := by
  rw [Bool.eq_iff_iff, startsWithTag_cons, startsWithTag_cons, closesFirst_escape smooth next,
    continuesTag_escape smooth next]

theorem shownFrom_escape_append :
    shown (escape text ++ rest) = text ++ shown rest ∧
      (ClosesFirst text → shownFrom .insideEscaped (escape text ++ rest) = text ++ shown rest) := by
  -- Behind the backslash of an escaped tag the text is read as it stands, up to a closing bracket;
  -- that this bracket comes first is what makes the tag one.
  induction text with
  | nil => exact ⟨rfl, fun closes => nomatch closes⟩
  | cons c text ih =>
    have plain : c ≠ '\\' := (List.ne_of_not_mem_cons smooth).symm
    have smooth' := List.not_mem_of_not_mem_cons smooth
    obtain ⟨behind, inside⟩ := ih smooth'
    have tag := startsWithTag_escape smooth' next c
    rw [escape_cons plain]
    cases starts : startsWithTag (c :: text) with
    | true =>
      obtain ⟨rfl, -, closes⟩ := (startsWithTag_cons c text).mp starts
      refine ⟨?_, fun other => absurd other ?_⟩
      · calc shown ('\\' :: '[' :: (escape text ++ rest))
            = '[' :: shownFrom .insideEscaped (escape text ++ rest) :=
              shown_escaped_tag plain (tag.trans starts)
          _ = '[' :: text ++ shown rest := by rw [inside closes, List.cons_append]
      · simp [closesFirst_cons]
    | false =>
      refine ⟨?_, fun closes => ?_⟩
      · calc shown (c :: (escape text ++ rest))
            = c :: shown (escape text ++ rest) := shown_cons_of_plain plain (tag.trans starts)
          _ = c :: text ++ shown rest := by rw [behind, List.cons_append]
      · calc shownFrom .insideEscaped (c :: (escape text ++ rest))
            = c :: if c = ']' then shown (escape text ++ rest)
                else shownFrom .insideEscaped (escape text ++ rest) :=
              shownFrom_insideEscaped_cons c _
          _ = c :: text ++ shown rest := by
              split
              · rw [behind, List.cons_append]
              · rename_i other
                rw [inside (((closesFirst_cons c text).mp closes).resolve_left other).2,
                  List.cons_append]

end Escaped

theorem shown_escape {text : Text} (smooth : '\\' ∉ text) : shown (escape text) = text := by
  have ends : OpensOrEnds [] := nofun
  have shows := (shownFrom_escape_append smooth ends).1
  rwa [List.append_nil, show shown [] = [] from rfl, List.append_nil] at shows

/-- A backslash that must not be there. -/
example : shown (escape "\\[1]".toList) = "[1]".toList := by decide

/-- The name of a style is spelled without brackets. -/
structure IsStyle (style : Text) : Prop where
  continues : ContinuesTag style
  opening : '[' ∉ style
  closing : ']' ∉ style

namespace IsStyle

variable {style : Text}

theorem slash (named : IsStyle style) : IsStyle ('/' :: style) :=
  ⟨⟨'/', rfl, rfl⟩, by simp [named.opening], by simp [named.closing]⟩

theorem closesFirst (named : IsStyle style) (rest : Text) :
    ClosesFirst (style ++ ']' :: rest) := by
  have skipped : (style ++ ']' :: rest).dropWhile (fun d => d ≠ '[' && d ≠ ']') = ']' :: rest := by
    rw [List.dropWhile_append_of_pos, List.dropWhile_cons_of_neg (by decide)]
    intro d listed
    have opening : d ≠ '[' := fun same => named.opening (same ▸ listed)
    have closing : d ≠ ']' := fun same => named.closing (same ▸ listed)
    simp [opening, closing]
  rw [ClosesFirst, skipped, List.head?_cons]

theorem startsWithTag (named : IsStyle style) (rest : Text) :
    startsWithTag ('[' :: (style ++ ']' :: rest)) = true := by
  obtain ⟨c, first, continues⟩ := named.continues
  refine (startsWithTag_cons _ _).mpr ⟨rfl, ⟨c, ?_, continues⟩, named.closesFirst rest⟩
  rw [List.head?_append, Option.mem_def.mp first]
  rfl

/-- A tag is not shown. -/
theorem shown_tag_append (named : IsStyle style) (rest : Text) :
    shown ('[' :: (style ++ ']' :: rest)) = shown rest := by
  rw [shown_cons_of_tag (by decide) (named.startsWithTag rest)]
  have closing := named.closing
  clear named
  induction style with
  | nil => exact (shownFrom_insideTag_cons ']' rest).trans (if_pos rfl)
  | cons d style ih =>
    rw [List.cons_append, shownFrom_insideTag_cons,
      if_neg (List.ne_of_not_mem_cons closing).symm, ih (List.not_mem_of_not_mem_cons closing)]

end IsStyle

variable {style text : Text}

theorem shown_styled_append (named : IsStyle style) (smooth : '\\' ∉ text) (rest : Text) :
    shown (styled style text ++ rest) = text ++ shown rest := by
  calc shown (styled style text ++ rest)
      = shown ('[' :: (style ++ ']' :: (escape text ++ '[' :: ('/' :: style ++ ']' :: rest)))) := by
        simp [styled]
    _ = shown (escape text ++ '[' :: ('/' :: style ++ ']' :: rest)) := named.shown_tag_append _
    _ = text ++ shown ('[' :: ('/' :: style ++ ']' :: rest)) :=
        (shownFrom_escape_append smooth (by rintro c ⟨⟩; rfl)).1
    _ = text ++ shown rest := by rw [named.slash.shown_tag_append]

end CommentDocs.Markup
