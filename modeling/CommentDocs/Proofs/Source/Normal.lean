import CommentDocs.Source.Path
import Mathlib.Data.List.TakeWhile

/-!
# The normal spelling of a path

A normal path is a root and names without anything else between them, so spelling it normally again
changes nothing. The normal spelling drops characters and adds none, but for the dot that stands for
an empty path.
-/

namespace CommentDocs.Path

open Text

variable {path : Text} {names : List Text}

/-- A piece of a path that names something. -/
structure IsNaming (name : Text) : Prop where
  nonempty : name ≠ []
  other : name ≠ ['.']
  free : '/' ∉ name

theorem names_of_mem_nameSegments {name : Text} (mem : name ∈ nameSegments path) :
    IsNaming name := by
  obtain ⟨piece, kept⟩ := List.mem_filter.mp mem
  obtain ⟨nonempty, other⟩ : name ≠ [] ∧ name ≠ ".".toList := by simpa using kept
  exact ⟨nonempty, other, notMem_of_mem_splitOn piece⟩

theorem rootOf_cases (path : Text) :
    rootOf path = [] ∨ rootOf path = ['/'] ∨ rootOf path = ['/', '/'] := by
  unfold rootOf
  split
  · exact .inl rfl
  · exact .inr (.inr rfl)
  · exact .inr (.inl rfl)

theorem nameSegments_slash (path : Text) : nameSegments ('/' :: path) = nameSegments path := by
  simp [nameSegments, segments, splitOn]

/-- Names come back from the path that they are joined to. -/
theorem nameSegments_ofSegments (named : ∀ name ∈ names, IsNaming name) :
    nameSegments (ofSegments names) = names := by
  by_cases empty : names = []
  · subst empty
    decide
  · rw [nameSegments, segments, ofSegments,
      splitOn_joinWith empty fun name mem => (named name mem).free, List.filter_eq_self]
    intro name mem
    simpa using ⟨(named name mem).nonempty, (named name mem).other⟩

/-- A path of names does not start with a slash. -/
theorem takeWhile_ofSegments (named : ∀ name ∈ names, IsNaming name) :
    (ofSegments names).takeWhile (· = '/') = [] := by
  cases names with
  | nil => rfl
  | cons name rest =>
    obtain ⟨nonempty, -, free⟩ := named name List.mem_cons_self
    obtain ⟨c, more, rfl⟩ := List.exists_cons_of_ne_nil nonempty
    have other : c ≠ '/' := fun same => free (same ▸ List.mem_cons_self)
    cases rest <;> simp [ofSegments, joinWith, other]

section Normal

variable {root : Text} (isRoot : root = [] ∨ root = ['/'] ∨ root = ['/', '/'])
  (named : ∀ name ∈ names, IsNaming name)
include isRoot named

theorem rootOf_append : rootOf (root ++ ofSegments names) = root := by
  have stops := takeWhile_ofSegments named
  rcases isRoot with rfl | rfl | rfl <;> simp [rootOf, stops]

theorem nameSegments_append : nameSegments (root ++ ofSegments names) = names := by
  rcases isRoot with rfl | rfl | rfl <;>
    simp [nameSegments_slash, nameSegments_ofSegments named]

end Normal

/-- What is normal stays as it is. -/
theorem normalize_normalize (path : Text) : normalize (normalize path) = normalize path := by
  have isRoot := rootOf_cases path
  have named : ∀ name ∈ nameSegments path, IsNaming name := fun _ => names_of_mem_nameSegments
  rw [normalize.eq_def path]
  split
  · decide
  · rename_i normal nonempty
    rw [normalize, rootOf_append isRoot named, nameSegments_append isRoot named]
    split
    · exact absurd ‹_› nonempty
    · rfl

/-- The number of characters in pieces, with a separator after each. -/
def spelledLength : List Text → Nat
  | [] => 0
  | piece :: rest => piece.length + 1 + spelledLength rest

theorem length_joinWith (separator : Char) {pieces : List Text} (nonempty : pieces ≠ []) :
    (joinWith separator pieces).length + 1 = spelledLength pieces := by
  induction pieces with
  | nil => exact absurd rfl nonempty
  | cons piece rest ih =>
    cases rest with
    | nil => simp [joinWith, spelledLength]
    | cons next more =>
      have below := ih (List.cons_ne_nil next more)
      simp only [joinWith, List.length_append, List.length_cons, spelledLength] at below ⊢
      omega

theorem spelledLength_segments (path : Text) : spelledLength (segments path) = path.length + 1 := by
  rw [segments, ← length_joinWith '/' (splitOn_ne_nil '/' path), joinWith_splitOn]

theorem spelledLength_filter_le (p : Text → Bool) (pieces : List Text) :
    spelledLength (pieces.filter p) ≤ spelledLength pieces := by
  induction pieces with
  | nil => exact Nat.le_refl _
  | cons piece rest ih =>
    rw [List.filter_cons, spelledLength]
    split
    · rw [spelledLength]
      omega
    · omega

/-- The names of a path and the slashes at its start are parts of it. -/
theorem spelledLength_nameSegments_le (path : Text) :
    spelledLength (nameSegments path) + (path.takeWhile (· = '/')).length ≤ path.length + 1 := by
  induction path with
  | nil => decide
  | cons c path ih =>
    by_cases slash : c = '/'
    · subst slash
      simp only [nameSegments_slash, List.takeWhile_cons, decide_true, if_true, List.length_cons]
      omega
    · have fewer := spelledLength_filter_le (fun segment => segment ≠ [] && segment ≠ ".".toList)
        (segments (c :: path))
      rw [spelledLength_segments] at fewer
      simpa [nameSegments, slash] using fewer

theorem length_rootOf_le (path : Text) :
    (rootOf path).length ≤ (path.takeWhile (· = '/')).length := by
  unfold rootOf
  split
  · exact Nat.zero_le _
  · simp [*]
  · rename_i some other
    exact Nat.one_le_iff_ne_zero.mpr some

/-- The normal spelling of a path is not longer, unless the path is empty. -/
theorem length_normalize_le (path : Text) : (normalize path).length ≤ max 1 path.length := by
  have root := length_rootOf_le path
  have parts := spelledLength_nameSegments_le path
  have whole : (rootOf path ++ ofSegments (nameSegments path)).length ≤ path.length := by
    rw [List.length_append]
    by_cases empty : nameSegments path = []
    · have prior := (List.takeWhile_sublist (· = '/') (l := path)).length_le
      simp only [empty, ofSegments, joinWith, List.length_nil]
      omega
    · have joined := length_joinWith '/' empty
      rw [← ofSegments] at joined
      omega
  unfold normalize
  split
  · exact le_max_left 1 _
  · rename_i normal nonempty
    exact whole.trans (le_max_right 1 _)

end CommentDocs.Path
