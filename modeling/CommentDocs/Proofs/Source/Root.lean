import CommentDocs.Proofs.Source.Joining
import Mathlib.Data.List.Infix

/-!
# Paths from the root

Two things move a path to or away from the root when it is collapsed. An absolute path of which
nothing but the root is kept is spelled as the empty path. A relative path with a doubled slash
keeps the empty segment between the slashes, and where nothing is kept before it, this segment
becomes the first one, which is the root. Nothing else does, so a path that names a file and has no
doubled slash stays absolute or relative.
-/

namespace CommentDocs.Path

open Text

/-- A doubled slash stands behind a beginning that collapses to the empty path. -/
def UncoversSlash (path : Text) : Prop :=
  ∃ front rest, path = front ++ '/' :: '/' :: rest ∧ collapse front = []

variable {path segment : Text} {kept remaining : List Text}

/-- The root is kept from before, or from an empty segment where nothing was kept. -/
theorem exists_of_head?_foldl_collapseStep
    (root : (remaining.foldl collapseStep kept).head? = some []) :
    kept.head? = some [] ∨ ∃ before after, remaining = before ++ [] :: after ∧
      before.foldl collapseStep kept = [] := by
  induction remaining generalizing kept with
  | nil => exact .inl root
  | cons segment rest ih =>
    obtain bottom | ⟨before, after, rfl, nothing⟩ := ih root
    · obtain earlier | ⟨rfl, rfl⟩ := head?_collapseStep_eq_iff.mp bottom
      · exact .inl earlier
      · exact .inr ⟨[], rest, rfl, rfl⟩
    · exact .inr ⟨segment :: before, after, rfl, nothing⟩

theorem segments_injective : Function.Injective segments := by
  intro first second same
  rw [← joinWith_splitOn '/' first, ← joinWith_splitOn '/' second]
  exact congrArg ofSegments same

theorem segments_ofSegments {part : List Text} (nonempty : part ≠ [])
    (inside : ∀ segment ∈ part, segment ∈ segments path) : segments (ofSegments part) = part := by
  apply splitOn_joinWith nonempty
  intro segment mem
  exact notMem_of_mem_splitOn (inside segment mem)

/-- A collapsed path is absolute if the first kept segment is empty and not all that is kept. -/
theorem isAbsolute_collapse_iff_kept :
    IsAbsolute (collapse path) ↔ (keptSegments path).head? = some [] ∧ collapse path ≠ [] := by
  rw [collapse_eq]
  have free (segment : Text) (mem : segment ∈ keptSegments path) : '/' ∉ segment :=
    notMem_of_mem_splitOn (mem_of_mem_keptSegments mem).1
  match keptSegments path, free with
  | [], _ => simp [IsAbsolute, ofSegments, joinWith]
  | [only], free =>
    have first : only.head? ≠ some '/' := by
      intro slash
      exact free only List.mem_cons_self (List.mem_of_head? slash)
    simp [IsAbsolute, ofSegments, joinWith, first]
  | [] :: second :: rest, _ => simp [IsAbsolute, ofSegments, joinWith]
  | (c :: name) :: second :: rest, free =>
    have first : c ≠ '/' := by
      rintro rfl
      exact free _ List.mem_cons_self List.mem_cons_self
    simp [IsAbsolute, ofSegments, joinWith, first]

theorem collapse_eq_nil_iff :
    collapse path = [] ↔ keptSegments path = [] ∨ keptSegments path = [[]] := by
  rw [collapse_eq]
  match keptSegments path with
  | [] => simp [ofSegments, joinWith]
  | [only] => simp [ofSegments, joinWith]
  | first :: second :: rest => simp [ofSegments, joinWith]

/-- An empty segment between two others is a doubled slash. -/
theorem eq_of_segments_eq {before after : List Text} (cut : segments path = before ++ [] :: after)
    (front : before ≠ []) (rest : after ≠ []) :
    segments (ofSegments before) = before ∧
      path = ofSegments before ++ '/' :: '/' :: ofSegments after := by
  have first : segments (ofSegments before) = before := by
    apply segments_ofSegments front
    intro segment mem
    rw [cut]
    exact List.mem_append_left _ mem
  have second : segments (ofSegments after) = after := by
    apply segments_ofSegments rest
    intro segment mem
    rw [cut]
    exact List.mem_append_right _ (List.mem_cons_of_mem _ mem)
  refine ⟨first, segments_injective ?_⟩
  rw [segments_append, segments_slash, first, second, cut]

/-- Only the empty path and absolute ones start with an empty segment. -/
theorem isAbsolute_of_head?_segments (start : (segments path).head? = some [])
    (nonempty : path ≠ []) : IsAbsolute path := by
  cases path with
  | nil => exact absurd rfl nonempty
  | cons c rest =>
    by_cases slash : c = '/'
    · exact congrArg some slash
    · have free : '/' ∉ [c] := fun mem => slash (List.mem_singleton.mp mem).symm
      obtain ⟨piece, pieces, -, whole⟩ := splitOn_append_left free rest
      change (splitOn '/' ([c] ++ rest)).head? = some [] at start
      rw [whole] at start
      cases start

/-- The root that is kept of a relative path was uncovered, unless it is all that is kept. -/
theorem uncoversSlash_of_head?_keptSegments (root : (keptSegments path).head? = some [])
    (nonempty : collapse path ≠ []) : IsAbsolute path ∨ UncoversSlash path := by
  obtain never | ⟨before, after, cut, nothing⟩ := exists_of_head?_foldl_collapseStep root
  · cases never
  · by_cases start : before = []
    · left
      subst start
      apply isAbsolute_of_head?_segments
      · rw [cut]
        rfl
      · rintro rfl
        exact nonempty rfl
    · right
      have more : after ≠ [] := by
        rintro rfl
        apply nonempty
        rw [collapse_eq, keptSegments, cut, List.foldl_append, nothing]
        rfl
      obtain ⟨front, doubled⟩ := eq_of_segments_eq cut start more
      refine ⟨ofSegments before, ofSegments after, doubled, ?_⟩
      rw [collapse_eq, keptSegments, front, nothing]
      rfl

theorem head?_keptSegments_of_uncoversSlash (uncovers : UncoversSlash path) :
    (keptSegments path).head? = some [] := by
  obtain ⟨front, rest, rfl, nothing⟩ := uncovers
  rw [keptSegments_append, segments_slash, List.foldl_cons]
  apply head?_foldl_collapseStep
  rw [head?_collapseStep_eq_iff]
  obtain empty | root := collapse_eq_nil_iff.mp nothing
  · exact .inr ⟨empty, rfl⟩
  · exact .inl (by rw [root]; rfl)

/-- A file is named by the last segment of its path. -/
def NamesFile (path : Text) : Prop :=
  ∃ name, (segments path).getLast? = some name ∧ name ≠ [] ∧ IsName name

theorem collapse_ne_nil_of_namesFile (file : NamesFile path) : collapse path ≠ [] := by
  obtain ⟨name, last, nonempty, names⟩ := file
  obtain ⟨before, cut⟩ := List.getLast?_eq_some_iff.mp last
  have keeps : keptSegments path = before.foldl collapseStep [] ++ [name] := by
    rw [keptSegments, cut, List.foldl_append, List.foldl_cons, List.foldl_nil,
      collapseStep_of_isName names]
  intro nothing
  obtain empty | root := collapse_eq_nil_iff.mp nothing
  · rw [keeps] at empty
    exact List.append_ne_nil_of_right_ne_nil _ (List.cons_ne_nil _ _) empty
  · rw [keeps] at root
    have last : [name] = [[]] := (List.append_inj' (root.trans (List.nil_append _).symm) rfl).2
    exact nonempty (List.cons.inj last).1

/-- A collapsed path is absolute if and only if it is not empty and the path is absolute or uncovers
a slash. So an absolute path stays absolute unless it collapses to the empty path, and a relative
one stays relative unless it uncovers a slash. Neither can happen to the path of a file in which
no slash is doubled. -/
theorem isAbsolute_collapse_iff (path : Text) :
    (IsAbsolute (collapse path) ↔ collapse path ≠ [] ∧ (IsAbsolute path ∨ UncoversSlash path)) ∧
      ((IsAbsolute (collapse path) ↔ IsAbsolute path) ↔
        ¬ (IsAbsolute path ∧ collapse path = []) ∧
          ¬ (¬ IsAbsolute path ∧ UncoversSlash path ∧ collapse path ≠ [])) ∧
      (NamesFile path → ¬ ['/', '/'] <:+: path →
        (IsAbsolute (collapse path) ↔ IsAbsolute path)) := by
  have exact_iff : IsAbsolute (collapse path) ↔
      collapse path ≠ [] ∧ (IsAbsolute path ∨ UncoversSlash path) := by
    rw [isAbsolute_collapse_iff_kept, and_comm, and_congr_right_iff]
    intro nonempty
    constructor
    · intro root
      exact uncoversSlash_of_head?_keptSegments root nonempty
    · intro reached
      exact reached.elim head?_keptSegments head?_keptSegments_of_uncoversSlash
  refine ⟨exact_iff, ?_, ?_⟩
  · rw [exact_iff]
    by_cases absolute : IsAbsolute path
    · simp [absolute]
    · simp [absolute, and_comm (a := UncoversSlash path)]
  · intro file single
    have nonempty := collapse_ne_nil_of_namesFile file
    have covered : ¬ UncoversSlash path := by
      rintro ⟨front, rest, rfl, -⟩
      exact single ⟨front, rest, by simp⟩
    rw [exact_iff, or_iff_left covered]
    exact and_iff_right nonempty

/-- A path of a file that goes up beyond the root, and one that uncovers a slash. -/
theorem isAbsolute_collapse_iff_file :
    let file := "/../a/./../b.js".toList
    let uncovered := "a/..//b.js".toList
    (NamesFile file ∧ ¬ ['/', '/'] <:+: file ∧
        (IsAbsolute (collapse file) ↔ IsAbsolute file) ∧ collapse file = "/b.js".toList) ∧
      ¬ IsAbsolute uncovered ∧ UncoversSlash uncovered ∧ IsAbsolute (collapse uncovered) := by
  intro file uncovered
  have names : NamesFile file := ⟨"b.js".toList, by decide, by decide, by decide⟩
  have single : ¬ ['/', '/'] <:+: file := by decide
  have uncovers : UncoversSlash uncovered := ⟨"a/..".toList, "b.js".toList, by decide, by decide⟩
  exact ⟨⟨names, single, (isAbsolute_collapse_iff file).2.2 names single, by decide⟩, by decide,
    uncovers, (isAbsolute_collapse_iff uncovered).1.mpr ⟨by decide, .inr uncovers⟩⟩

/-- Collapsing takes the root away from one path and brings another one there. -/
theorem collapse_moves_root :
    (IsAbsolute "/..".toList ∧ collapse "/..".toList = []) ∧
      (¬ IsAbsolute ".//a".toList ∧ collapse ".//a".toList = "/a".toList) ∧
      ¬ ∀ path ≠ [], (IsAbsolute (collapse path) ↔ IsAbsolute path) := by
  refine ⟨by decide, by decide, ?_⟩
  intro unmoved
  have same := unmoved "/..".toList (by decide)
  revert same
  decide

end CommentDocs.Path
