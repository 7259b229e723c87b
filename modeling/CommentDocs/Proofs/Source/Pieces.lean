import CommentDocs.Proofs.Source.Fences
import Mathlib.Data.List.Chain

/-!
# Code between fences

A text is given as pieces of code, each after a fence. A fence takes all equal signs that it
touches, so where an opening fence is directly followed by a closing one, the first takes the equal
signs of both and the end of the second is left behind. Every other fence is removed as a whole, and
all code is kept. One sweep does it, because an asterisk that is left behind has no equal sign
beside it.
-/

namespace CommentDocs.Fence

open Text

/-- A fence with its number of equal signs beyond the least. -/
inductive Marker where
  | opens (more : Nat)
  | closes (more : Nat)
  deriving DecidableEq, Repr

def Marker.text : Marker → Text
  | .opens more => '/' :: '*' :: List.replicate (leastBars + more) '='
  | .closes more => List.replicate (leastBars + more) '=' ++ ['*', '/']

def Marker.isOpening : Marker → Bool
  | .opens _ => true
  | .closes _ => false

/-- A fence and the code that follows it. -/
structure Piece where
  marker : Marker
  code : Text
  deriving DecidableEq, Repr

def Piece.text (piece : Piece) : Text :=
  piece.marker.text ++ piece.code

/-- Code that holds no part of a fence and touches none with an equal sign. -/
structure IsPlain (code : Text) : Prop where
  noSlash : '/' ∉ code
  noStar : '*' ∉ code
  start : code.head? ≠ some '='
  stop : code.getLast? ≠ some '='

instance (code : Text) : Decidable (IsPlain code) :=
  decidable_of_iff ('/' ∉ code ∧ '*' ∉ code ∧ code.head? ≠ some '=' ∧ code.getLast? ≠ some '=')
    ⟨fun ⟨noSlash, noStar, start, stop⟩ => ⟨noSlash, noStar, start, stop⟩,
      fun plain => ⟨plain.noSlash, plain.noStar, plain.start, plain.stop⟩⟩

/-- An opening fence is directly followed by a closing one. -/
def Piece.Touches (piece next : Piece) : Prop :=
  piece.marker.isOpening = true ∧ piece.code = [] ∧ next.marker.isOpening = false

instance : DecidableRel Piece.Touches := fun _ _ => inferInstanceAs (Decidable (_ ∧ _))

/-- No opening fence is directly followed by a closing one. -/
def Apart (pieces : List Piece) : Prop :=
  pieces.IsChain fun piece next => ¬ piece.Touches next

instance : DecidablePred Apart := fun pieces =>
  inferInstanceAs (Decidable (pieces.IsChain fun piece next => ¬ piece.Touches next))

/-- Code before the first fence, then the pieces. -/
def fenced (first : Text) (pieces : List Piece) : Text :=
  first ++ pieces.flatMap Piece.text

/-- What is left of pieces: their code, and the end of each closing fence that is touched. -/
def residue : List Piece → Text
  | [] => []
  | [piece] => piece.code
  | piece :: next :: rest =>
    piece.code ++ (if piece.Touches next then ['*', '/'] else []) ++ residue (next :: rest)

variable {first code rest : Text} {piece next : Piece} {pieces : List Piece}

theorem Piece.Touches.eq (touches : piece.Touches next) :
    ∃ more others code, piece = ⟨.opens more, []⟩ ∧ next = ⟨.closes others, code⟩ := by
  obtain ⟨opening, empty, closing⟩ := touches
  obtain ⟨more | _, _⟩ := piece
  · obtain rfl := empty
    obtain ⟨_ | others, after⟩ := next
    · cases closing
    · exact ⟨more, others, after, rfl, rfl⟩
  · cases opening

/-- A piece leaves its code, or the end of the closing fence that it touches. -/
theorem residue_cons_cases (piece : Piece) (pieces : List Piece) :
    (∃ next ∈ pieces.head?, piece.Touches next) ∧
        residue (piece :: pieces) = '*' :: '/' :: residue pieces ∨
      (∀ next ∈ pieces.head?, ¬ piece.Touches next) ∧
        residue (piece :: pieces) = piece.code ++ residue pieces := by
  cases pieces with
  | nil => exact .inr ⟨fun _ => by rintro ⟨⟩, (List.append_nil _).symm⟩
  | cons next rest =>
    by_cases touches : piece.Touches next
    · left
      refine ⟨⟨next, rfl, touches⟩, ?_⟩
      rw [residue, if_pos touches, touches.2.1]
      rfl
    · right
      constructor
      · rintro _ ⟨⟩
        exact touches
      · rw [residue, if_neg touches, List.append_nil]

theorem sweep_of_afterFence? {after : Text} {c : Char} (h : afterFence? (c :: rest) = some after) :
    sweep (c :: rest) = sweep after := by
  rw [sweep]
  split
  · rename_i found
    rw [Option.some.inj (found.symm.trans h)]
  · rename_i missing
    rw [h] at missing
    cases missing

theorem sweep_of_afterFence?_eq_none {c : Char} (h : afterFence? (c :: rest) = none) :
    sweep (c :: rest) = c :: sweep rest := by
  rw [sweep]
  split
  · rename_i found
    rw [h] at found
    cases found
  · rfl

theorem dropWhile_bars (count : Nat) (rest : Text) :
    (List.replicate count '=' ++ rest).dropWhile (· = '=') = rest.dropWhile (· = '=') := by
  apply List.dropWhile_append_of_pos
  intro c mem
  exact decide_eq_true (List.eq_of_mem_replicate mem)

theorem opensWithBars_replicate (more : Nat) (rest : Text) :
    opensWithBars (List.replicate (leastBars + more) '=' ++ rest) = true := by
  have enough := opensWithBars_append (List.replicate more '=' ++ rest)
  rwa [← List.append_assoc, show bars = List.replicate leastBars '=' from rfl,
    List.replicate_append_replicate] at enough

/-- An opening fence takes all equal signs that come. -/
theorem sweep_opens (more : Nat) (rest : Text) :
    sweep ((Marker.opens more).text ++ rest) = sweep (rest.dropWhile (· = '=')) := by
  apply sweep_of_afterFence?
  change (if opensWithBars (List.replicate (leastBars + more) '=' ++ rest) then
    some ((List.replicate (leastBars + more) '=' ++ rest).dropWhile (· = '=')) else none) = _
  rw [if_pos (opensWithBars_replicate more rest), dropWhile_bars]

theorem sweep_closes (more : Nat) (rest : Text) :
    sweep ((Marker.closes more).text ++ rest) = sweep rest := by
  have whole : (Marker.closes more).text ++ rest =
      List.replicate (leastBars + more) '=' ++ '*' :: '/' :: rest := List.append_assoc _ _ _
  have bar : List.replicate (leastBars + more) '=' ++ '*' :: '/' :: rest =
      '=' :: (List.replicate (more + 4) '=' ++ '*' :: '/' :: rest) := by
    rw [Nat.add_comm]
    rfl
  rw [whole, bar]
  apply sweep_of_afterFence?
  rw [afterFence?, ← bar, if_pos (opensWithBars_replicate more _), dropWhile_bars]
  rfl

/-- Bars do not go on to the end of code. -/
theorem exists_dropWhile_bars (nonempty : code ≠ []) (stop : code.getLast? ≠ some '=') :
    ∃ c ∈ code, ∃ after, code.dropWhile (· = '=') = c :: after := by
  have something : code.dropWhile (· = '=') ≠ [] := by
    intro all
    rw [List.dropWhile_eq_nil_iff] at all
    apply stop
    rw [List.getLast?_eq_some_getLast nonempty]
    exact congrArg _ (of_decide_eq_true (all _ (List.getLast_mem nonempty)))
  obtain ⟨c, after, cut⟩ := List.exists_cons_of_ne_nil something
  exact ⟨c, (List.dropWhile_sublist _).subset (cut ▸ List.mem_cons_self), after, cut⟩

/-- No fence starts within code, neither one that ends there nor one that ends behind it. -/
theorem afterFence?_code {c : Char} (noSlash : c ≠ '/') (noStar : '*' ∉ code)
    (stop : (c :: code).getLast? ≠ some '=') (rest : Text) :
    afterFence? (c :: (code ++ rest)) = none := by
  by_cases bar : c = '='
  · subst bar
    have nonempty : code ≠ [] := by
      rintro rfl
      exact stop rfl
    have last : code.getLast? ≠ some '=' := by
      rwa [List.getLast?_cons_of_ne_nil nonempty] at stop
    obtain ⟨d, inside, after, cut⟩ := exists_dropWhile_bars nonempty last
    have dropped : (code ++ rest).dropWhile (· = '=') = d :: (after ++ rest) := by
      rw [List.dropWhile_append, cut]
      rfl
    rw [afterFence?, dropped]
    split
    · split
      · rename_i ending
        exact absurd ((List.cons.inj ending).1 ▸ inside) noStar
      · rfl
    · rfl
  · unfold afterFence?
    split
    · rename_i same
      exact absurd (List.cons.inj same).1 noSlash
    · rename_i same
      exact absurd (List.cons.inj same).1 bar
    · rfl

/-- A sweep keeps code, whatever follows. -/
theorem sweep_code (noSlash : '/' ∉ code) (noStar : '*' ∉ code) (stop : code.getLast? ≠ some '=')
    (rest : Text) : sweep (code ++ rest) = code ++ sweep rest := by
  induction code with
  | nil => rfl
  | cons c code ih =>
    rw [List.mem_cons, not_or] at noSlash noStar
    have last : code.getLast? ≠ some '=' := by
      intro bar
      apply stop
      rw [List.getLast?_cons, bar]
      rfl
    have start := afterFence?_code (Ne.symm noSlash.1) noStar.2 stop rest
    rw [List.cons_append, sweep_of_afterFence?_eq_none start, ih noSlash.2 noStar.2 last]
    rfl

/-- The end of a fence that is left behind starts no fence with code. -/
theorem sweep_leftBehind (h : rest.head? ≠ some '*') :
    sweep ('*' :: '/' :: rest) = '*' :: '/' :: sweep rest := by
  have star : afterFence? ('*' :: '/' :: rest) = none := rfl
  have slash : afterFence? ('/' :: rest) = none := by
    cases rest with
    | nil => rfl
    | cons c rest =>
      have other : c ≠ '*' := fun same => h (congrArg some same)
      simp [afterFence?, other]
  rw [sweep_of_afterFence?_eq_none star, sweep_of_afterFence?_eq_none slash]

theorem Marker.text_eq_cons (marker : Marker) :
    ∃ tail, marker.text = (if marker.isOpening then '/' else '=') :: tail := by
  cases marker with
  | opens more => exact ⟨_, rfl⟩
  | closes more =>
    refine ⟨List.replicate (more + 4) '=' ++ ['*', '/'], ?_⟩
    rw [Marker.text, Nat.add_comm]
    rfl

theorem head?_flatMap_text :
    (pieces.flatMap Piece.text).head? =
      pieces.head?.map fun piece => if piece.marker.isOpening then '/' else '=' := by
  cases pieces with
  | nil => rfl
  | cons piece pieces =>
    obtain ⟨tail, text⟩ := piece.marker.text_eq_cons
    rw [List.flatMap_cons, Piece.text, text]
    rfl

/-- No piece starts with an asterisk, and code does not either. -/
theorem head?_append_flatMap_ne_star (noStar : '*' ∉ code) :
    (code ++ pieces.flatMap Piece.text).head? ≠ some '*' := by
  cases code with
  | nil =>
    rw [List.nil_append, head?_flatMap_text]
    intro star
    obtain ⟨piece, -, same⟩ := Option.map_eq_some_iff.mp star
    split at same <;> exact absurd same (by decide)
  | cons c code =>
    intro star
    exact noStar (Option.some.inj star ▸ List.mem_cons_self)

/-- What follows an opening fence starts with an equal sign only if the fence touches the next. -/
theorem dropWhile_append_flatMap (plain : IsPlain piece.code) (opening : piece.marker.isOpening)
    (apart : ∀ next ∈ pieces.head?, ¬ piece.Touches next) :
    (piece.code ++ pieces.flatMap Piece.text).dropWhile (· = '=') =
      piece.code ++ pieces.flatMap Piece.text := by
  have start : (piece.code ++ pieces.flatMap Piece.text).head? ≠ some '=' := by
    by_cases empty : piece.code = []
    · rw [empty, List.nil_append, head?_flatMap_text]
      intro bar
      obtain ⟨next, follows, same⟩ := Option.map_eq_some_iff.mp bar
      split at same
      · exact absurd same (by decide)
      · rename_i closing
        exact apart next follows ⟨opening, empty, by simpa using closing⟩
    · rw [List.head?_append_of_ne_nil _ empty]
      exact plain.start
  cases text : piece.code ++ pieces.flatMap Piece.text with
  | nil => rfl
  | cons c rest =>
    rw [text] at start
    have other : c ≠ '=' := fun same => start (congrArg some same)
    exact List.dropWhile_cons_of_neg (by simpa using other)

/-- A closing fence that is touched leaves its end behind. -/
theorem sweep_opens_closes (more others : Nat) (noStar : '*' ∉ code) :
    sweep ((Marker.opens more).text ++ ((Marker.closes others).text ++
        (code ++ pieces.flatMap Piece.text))) =
      '*' :: '/' :: sweep ((Marker.closes others).text ++ (code ++ pieces.flatMap Piece.text)) := by
  have ending : ((Marker.closes others).text ++
      (code ++ pieces.flatMap Piece.text)).dropWhile (· = '=') =
        '*' :: '/' :: (code ++ pieces.flatMap Piece.text) := by
    rw [Marker.text, List.append_assoc, dropWhile_bars]
    rfl
  rw [sweep_opens, ending, sweep_leftBehind (head?_append_flatMap_ne_star noStar), sweep_closes]

theorem sweep_pieces (plain : ∀ piece ∈ pieces, IsPlain piece.code) :
    sweep (pieces.flatMap Piece.text) = residue pieces := by
  induction pieces with
  | nil => exact sweep.eq_1
  | cons piece pieces ih =>
    obtain ⟨own, others⟩ := List.forall_mem_cons.mp plain
    have swept := ih others
    have kept : sweep (piece.code ++ pieces.flatMap Piece.text) = piece.code ++ residue pieces := by
      rw [sweep_code own.noSlash own.noStar own.stop, swept]
    rw [List.flatMap_cons, Piece.text, List.append_assoc]
    obtain ⟨⟨next, follows, touches⟩, left⟩ | ⟨apart, left⟩ := residue_cons_cases piece pieces
    · obtain ⟨rest, rfl⟩ := List.head?_eq_some_iff.mp follows
      obtain ⟨more, bars, code, rfl, rfl⟩ := touches.eq
      have following : IsPlain code := others ⟨.closes bars, code⟩ List.mem_cons_self
      rw [left, ← swept, List.nil_append, List.flatMap_cons, Piece.text, List.append_assoc]
      exact sweep_opens_closes more bars following.noStar
    · rw [left, ← kept]
      obtain ⟨more | more, code⟩ := piece
      · rw [sweep_opens, dropWhile_append_flatMap own rfl apart]
      · exact sweep_closes _ _

theorem length_codes_le (pieces : List Piece) :
    (pieces.flatMap Piece.code).length ≤ (residue pieces).length := by
  induction pieces with
  | nil => exact Nat.le_refl _
  | cons piece pieces ih =>
    rw [List.flatMap_cons, List.length_append]
    obtain ⟨⟨next, -, touches⟩, left⟩ | ⟨-, left⟩ := residue_cons_cases piece pieces
    · rw [left, touches.2.1, List.length_cons, List.length_cons, List.length_nil]
      omega
    · rw [left, List.length_append]
      omega

/-- Nothing but code is left if no opening fence touches a closing one. -/
theorem residue_eq_iff (pieces : List Piece) :
    residue pieces = pieces.flatMap Piece.code ↔ Apart pieces := by
  induction pieces with
  | nil => exact iff_of_true rfl .nil
  | cons piece pieces ih =>
    rw [Apart, List.isChain_cons, List.flatMap_cons]
    obtain ⟨⟨next, follows, touches⟩, left⟩ | ⟨apart, left⟩ := residue_cons_cases piece pieces
    · refine iff_of_false ?_ fun chain => chain.1 next follows touches
      intro same
      have longer := length_codes_le pieces
      have lengths := congrArg List.length (left.symm.trans same)
      rw [touches.2.1, List.length_cons, List.length_cons, List.nil_append] at lengths
      omega
    · rw [left, List.append_cancel_left_eq, ih, Apart]
      exact (and_iff_right apart).symm

/-- An asterisk and an equal sign do not stand side by side, in either order. -/
def Unbarred (c d : Char) : Prop :=
  ¬ (c = '*' ∧ d = '=') ∧ ¬ (c = '=' ∧ d = '*')

instance : DecidableRel Unbarred := fun _ _ => inferInstanceAs (Decidable (_ ∧ _))

theorem not_occurs_of_isChain {text : Text} (chain : text.IsChain Unbarred) : ¬ Occurs text := by
  rintro (opens | closes)
  · have inside : opening.IsChain Unbarred := List.IsChain.infix chain opens
    exact absurd inside (by decide)
  · have inside : closing.IsChain Unbarred := List.IsChain.infix chain closes
    exact absurd inside (by decide)

/-- Code neither holds nor touches an asterisk with an equal sign, whatever follows it. -/
theorem isChain_code_append (plain : IsPlain code) (chain : rest.IsChain Unbarred) :
    (code ++ rest).IsChain Unbarred := by
  have inner : code.IsChain Unbarred := by
    apply List.Pairwise.isChain
    apply List.pairwise_of_forall_mem_list
    intro c first d second
    exact ⟨fun meet => plain.noStar (meet.1 ▸ first), fun meet => plain.noStar (meet.2 ▸ second)⟩
  refine List.isChain_append.mpr ⟨inner, chain, ?_⟩
  intro c last d _
  constructor
  · rintro ⟨rfl, -⟩
    exact plain.noStar (List.mem_of_getLast? last)
  · rintro ⟨rfl, -⟩
    exact plain.stop last

theorem isChain_residue (plain : ∀ piece ∈ pieces, IsPlain piece.code) :
    (residue pieces).IsChain Unbarred := by
  induction pieces with
  | nil => exact .nil
  | cons piece pieces ih =>
    obtain ⟨own, others⟩ := List.forall_mem_cons.mp plain
    obtain ⟨-, left⟩ | ⟨-, left⟩ := residue_cons_cases piece pieces
    · rw [left]
      refine .cons_cons (by decide) (List.isChain_cons.mpr ⟨?_, ih others⟩)
      intro c _
      simp [Unbarred]
    · rw [left]
      exact isChain_code_append own (ih others)

theorem strip_sweep (text : Text) : strip (sweep text) = strip text := by
  rw [strip_eq text]
  split
  · rename_i same
    rw [same, strip_eq, if_pos same]
  · rfl

/-- For plain code between fences, one sweep removes all that can be removed. It leaves the code and
the end of each closing fence that directly follows an opening one, so that just the code is left if
and only if there is no such place. -/
theorem strip_fenced (first : Text) (pieces : List Piece) (plain : IsPlain first)
    (plains : ∀ piece ∈ pieces, IsPlain piece.code) :
    strip (fenced first pieces) = first ++ residue pieces ∧
      sweep (fenced first pieces) = strip (fenced first pieces) ∧
      (strip (fenced first pieces) = first ++ pieces.flatMap Piece.code ↔ Apart pieces) := by
  have swept : sweep (fenced first pieces) = first ++ residue pieces := by
    rw [fenced, sweep_code plain.noSlash plain.noStar plain.stop, sweep_pieces plains]
  have clean : ¬ Occurs (first ++ residue pieces) :=
    not_occurs_of_isChain (isChain_code_append plain (isChain_residue plains))
  have stripped : strip (fenced first pieces) = first ++ residue pieces := by
    rw [← strip_sweep, swept, strip_eq_self_iff]
    exact clean
  refine ⟨stripped, swept.trans stripped.symm, ?_⟩
  rw [stripped, List.append_cancel_left_eq, residue_eq_iff]

/-- Fences in any order: an opening one after a closing one and two closing ones touch without harm,
and code holds equal signs. -/
theorem strip_fenced_apart :
    let first := "a".toList
    let pieces : List Piece :=
      [⟨.opens 1, "\nb ===== c\n".toList⟩, ⟨.closes 0, []⟩, ⟨.opens 0, " ".toList⟩,
        ⟨.closes 2, []⟩, ⟨.closes 0, "d".toList⟩]
    IsPlain first ∧ (∀ piece ∈ pieces, IsPlain piece.code) ∧ Apart pieces ∧
      fenced first pieces =
        "a/*======\nb ===== c\n=====*//*===== =======*/=====*/d".toList ∧
      strip (fenced first pieces) = "a\nb ===== c\n d".toList := by
  intro first pieces
  have plain : IsPlain first := by decide
  have plains : ∀ piece ∈ pieces, IsPlain piece.code := by decide
  have apart : Apart pieces := by decide
  exact ⟨plain, plains, apart, by decide, (strip_fenced first pieces plain plains).2.2.mpr apart⟩

/-- The end of a closing fence is left behind where an opening one touches it. -/
theorem strip_leaves_ending :
    fenced [] [⟨.opens 0, []⟩, ⟨.closes 0, []⟩] = "/*==========*/".toList ∧
      strip "/*==========*/".toList = "*/".toList ∧
      ¬ ∀ first pieces, IsPlain first → (∀ piece ∈ pieces, IsPlain piece.code) →
        strip (fenced first pieces) = first ++ pieces.flatMap Piece.code := by
  have text : fenced [] [⟨.opens 0, []⟩, ⟨.closes 0, []⟩] = "/*==========*/".toList := by decide
  have ending : strip "/*==========*/".toList = "*/".toList := by decide +kernel
  refine ⟨text, ending, ?_⟩
  intro kept
  have nothing := kept [] [⟨.opens 0, []⟩, ⟨.closes 0, []⟩] (by decide) (by decide)
  rw [text, ending] at nothing
  exact absurd nothing (by decide)

end CommentDocs.Fence
