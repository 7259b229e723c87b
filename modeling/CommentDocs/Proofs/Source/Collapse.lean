import CommentDocs.Source.Path

/-!
# Collapsed paths

Collapsing keeps the segments of a path that are names, in order, but for those that a `..` takes
back. So neither `.` nor `..` is left, and a path that has neither stays as it is. Segments are
separate things: what stands before a slash and what stands behind it are collapsed paths if the
whole is one.
-/

namespace CommentDocs.Path

open Text

/-- A segment that does not move between directories; it may be empty. -/
def IsName (segment : Text) : Prop :=
  segment ≠ ".".toList ∧ segment ≠ "..".toList

instance : DecidablePred IsName := fun _ => inferInstanceAs (Decidable (_ ∧ _))

/-- A path without the segments `.` and `..`. -/
def IsCollapsed (path : Text) : Prop :=
  ∀ segment ∈ segments path, IsName segment

instance : DecidablePred IsCollapsed := fun path =>
  inferInstanceAs (Decidable (∀ segment ∈ segments path, IsName segment))

variable {segment : Text} {kept remaining : List Text}

theorem collapseStep_of_isName (name : IsName segment) (kept : List Text) :
    collapseStep kept segment = kept ++ [segment] := by
  rw [collapseStep, if_neg name.2, if_neg name.1]

/-- A step adds at most its own segment, and that only if it is a name. -/
theorem mem_collapseStep {other : Text} (mem : other ∈ collapseStep kept segment) :
    other ∈ kept ∨ other = segment ∧ IsName segment := by
  unfold collapseStep at mem
  split at mem
  · split at mem
    · exact .inl mem
    · exact .inl ((List.dropLast_subset kept) mem)
  · rename_i up
    split at mem
    · exact .inl mem
    · rename_i here
      rcases List.mem_append.mp mem with old | new
      · exact .inl old
      · exact .inr ⟨List.mem_singleton.mp new, here, up⟩

/-- A scan keeps names only. -/
theorem mem_foldl_collapseStep {other : Text} (mem : other ∈ remaining.foldl collapseStep kept) :
    other ∈ kept ∨ other ∈ remaining ∧ IsName other := by
  induction remaining generalizing kept with
  | nil => exact .inl mem
  | cons segment rest ih =>
    rcases ih mem with before | ⟨later, name⟩
    · rcases mem_collapseStep before with old | ⟨rfl, name⟩
      · exact .inl old
      · exact .inr ⟨List.mem_cons_self, name⟩
    · exact .inr ⟨List.mem_cons_of_mem _ later, name⟩

/-- A scan keeps all names if there is nothing else. -/
theorem foldl_collapseStep_of_isName (names : ∀ segment ∈ remaining, IsName segment) :
    remaining.foldl collapseStep kept = kept ++ remaining := by
  induction remaining generalizing kept with
  | nil => exact (List.append_nil kept).symm
  | cons segment rest ih =>
    obtain ⟨name, others⟩ := List.forall_mem_cons.mp names
    rw [List.foldl_cons, collapseStep_of_isName name, ih others, List.append_assoc]
    rfl

/-- The segments that the scan of a path keeps. -/
def keptSegments (path : Text) : List Text :=
  (segments path).foldl collapseStep []

theorem collapse_eq (path : Text) : collapse path = ofSegments (keptSegments path) := rfl

theorem mem_of_mem_keptSegments {path : Text} (mem : segment ∈ keptSegments path) :
    segment ∈ segments path ∧ IsName segment :=
  (mem_foldl_collapseStep mem).resolve_left List.not_mem_nil

/-- A path that keeps a segment has just the kept segments once it is collapsed. -/
theorem segments_collapse {path : Text} (keeps : keptSegments path ≠ []) :
    segments (collapse path) = keptSegments path := by
  apply splitOn_joinWith keeps
  intro segment mem
  exact notMem_of_mem_splitOn (mem_of_mem_keptSegments mem).1

/-- The segments of a collapsed path are those that the scan keeps; where it keeps none, the path is
empty and has one empty segment. -/
theorem mem_segments_collapse {path : Text} (mem : segment ∈ segments (collapse path)) :
    segment = [] ∨ segment ∈ segments path ∧ IsName segment := by
  by_cases nothing : keptSegments path = []
  · rw [collapse_eq, nothing] at mem
    exact .inl (List.mem_singleton.mp mem)
  · rw [segments_collapse nothing] at mem
    exact .inr (mem_of_mem_keptSegments mem)

/-- No segment `.` or `..` is left of a path. -/
theorem isCollapsed_collapse (path : Text) : IsCollapsed (collapse path) := by
  intro segment mem
  rcases mem_segments_collapse mem with rfl | ⟨-, name⟩
  · decide
  · exact name

/-- A path that has neither `.` nor `..` among its segments stays as it is. -/
theorem collapse_of_isCollapsed {path : Text} (collapsed : IsCollapsed path) :
    collapse path = path := by
  rw [collapse, foldl_collapseStep_of_isName collapsed, List.nil_append]
  exact joinWith_splitOn '/' path

/-- A slash ends a segment. -/
theorem segments_append (left right : Text) :
    segments (left ++ '/' :: right) = segments left ++ segments right := by
  unfold segments
  induction left with
  | nil => rfl
  | cons c left ih =>
    obtain ⟨piece, pieces, found⟩ := List.exists_cons_of_ne_nil (splitOn_ne_nil '/' left)
    by_cases slash : c = '/' <;> simp [splitOn, slash, ih, found]

theorem isCollapsed_append {left right : Text} :
    IsCollapsed (left ++ '/' :: right) ↔ IsCollapsed left ∧ IsCollapsed right := by
  unfold IsCollapsed
  rw [segments_append, List.forall_mem_append]

end CommentDocs.Path
