import CommentDocs.Proofs.Source.Collapse

/-!
# Paths below collapsed paths

All that later segments act on is what the scan of the earlier ones keeps, and a path that keeps a
segment keeps the same segments after it is collapsed. So a path may be collapsed before something
is joined to it. Where nothing is kept, the collapsed path is empty, and what is joined to the empty
path starts at the root.
-/

namespace CommentDocs.Path

open Text

/-- A path that starts at the root. -/
def IsAbsolute (path : Text) : Prop :=
  path.head? = some '/'

instance : DecidablePred IsAbsolute := fun path =>
  inferInstanceAs (Decidable (path.head? = some '/'))

variable {path segment : Text} {kept remaining : List Text}

/-- A `..` takes back the name before it; only the root is not left. -/
theorem collapseStep_up (kept : List Text) (name : Text) :
    collapseStep (kept ++ [name]) "..".toList =
      if kept = [] ∧ name = [] then [[]] else kept := by
  rw [collapseStep, if_pos rfl, List.dropLast_concat]
  by_cases root : kept = [] ∧ name = []
  · obtain ⟨rfl, rfl⟩ := root
    rfl
  · rw [if_neg root, if_neg]
    intro bottom
    apply root
    simpa [List.append_eq_singleton_iff] using bottom

/-- A segment that is no name changes nothing or takes back the last one, but not the root. -/
theorem collapseStep_of_not_isName (moves : ¬ IsName segment) (kept : List Text) :
    collapseStep kept segment = kept ∨ ∃ before last, kept = before ++ [last] ∧
      ¬ (before = [] ∧ last = []) ∧ collapseStep kept segment = before := by
  by_cases up : segment = "..".toList
  · subst up
    rcases List.eq_nil_or_concat kept with rfl | ⟨before, last, rfl⟩
    · exact .inl rfl
    · rw [List.concat_eq_append, collapseStep_up]
      split
      · rename_i root
        obtain ⟨rfl, rfl⟩ := root
        exact .inl rfl
      · rename_i below
        exact .inr ⟨before, last, rfl, below, rfl⟩
  · have here : segment = ".".toList := Decidable.not_not.mp fun other => moves ⟨other, up⟩
    left
    rw [collapseStep, if_neg up, if_pos here]

/-- An empty segment at the bottom was the first to be kept, and stays. -/
theorem head?_collapseStep_eq_iff :
    (collapseStep kept segment).head? = some [] ↔
      kept.head? = some [] ∨ kept = [] ∧ segment = [] := by
  by_cases name : IsName segment
  · rw [collapseStep_of_isName name]
    cases kept <;> simp
  · have other : segment ≠ [] := by
      rintro rfl
      exact name (by decide)
    rw [or_iff_left fun empty => other empty.2]
    obtain same | ⟨before, last, rfl, below, taken⟩ := collapseStep_of_not_isName name kept
    · rw [same]
    · rw [taken]
      cases before with
      | nil => simpa using below
      | cons first rest => rfl

theorem head?_foldl_collapseStep (root : kept.head? = some []) :
    (remaining.foldl collapseStep kept).head? = some [] := by
  induction remaining generalizing kept with
  | nil => exact root
  | cons segment rest ih => exact ih (head?_collapseStep_eq_iff.mpr (.inl root))

theorem segments_slash (rest : Text) : segments ('/' :: rest) = [] :: segments rest := rfl

/-- The root is kept. -/
theorem head?_keptSegments (absolute : IsAbsolute path) :
    (keptSegments path).head? = some [] := by
  cases path with
  | nil => cases absolute
  | cons c rest =>
    obtain rfl : c = '/' := Option.some.inj absolute
    rw [keptSegments, segments_slash, List.foldl_cons]
    exact head?_foldl_collapseStep rfl

theorem keptSegments_append (left right : Text) :
    keptSegments (left ++ '/' :: right) =
      (segments right).foldl collapseStep (keptSegments left) := by
  rw [keptSegments, segments_append, List.foldl_append, keptSegments]

/-- A path that keeps a segment keeps the same ones once it is collapsed. -/
theorem keptSegments_collapse (keeps : keptSegments path ≠ []) :
    keptSegments (collapse path) = keptSegments path := by
  rw [keptSegments, segments_collapse keeps, foldl_collapseStep_of_isName, List.nil_append]
  intro segment mem
  exact (mem_of_mem_keptSegments mem).2

theorem keptSegments_ne_nil (h : IsAbsolute path ∨ collapse path ≠ []) :
    keptSegments path ≠ [] := by
  intro nothing
  cases h with
  | inl absolute => exact absurd (head?_keptSegments absolute) (by simp [nothing])
  | inr something => exact something (by rw [collapse_eq, nothing]; rfl)

theorem collapse_below (keeps : keptSegments path ≠ []) (below : Text) :
    collapse (path ++ '/' :: below) = collapse (collapse path ++ '/' :: below) := by
  rw [collapse_eq, keptSegments_append, collapse_eq (collapse path ++ _), keptSegments_append,
    keptSegments_collapse keeps]

/-- Going down to a name and back up leads nowhere, also where the name is empty. -/
theorem collapse_down_up (path : Text) {name : Text} (free : '/' ∉ name) (names : IsName name) :
    collapse (path ++ '/' :: name ++ "/..".toList) = collapse path := by
  have scanned : keptSegments (path ++ '/' :: name ++ "/..".toList) =
      collapseStep (keptSegments path ++ [name]) "..".toList := by
    change keptSegments ((path ++ '/' :: name) ++ '/' :: "..".toList) = _
    rw [keptSegments_append, keptSegments_append, segments, splitOn_of_notMem free]
    change collapseStep (collapseStep (keptSegments path) name) "..".toList = _
    rw [collapseStep_of_isName names]
  rw [collapse_eq, scanned, collapseStep_up, collapse_eq]
  split
  · -- nothing was kept and the name is empty: the root and the current directory are both spelled
    -- as the empty path
    rename_i nowhere
    rw [nowhere.1]
    rfl
  · rfl

/-- Collapsing a path leaves neither `.` nor `..`, changes nothing the second time, and changes
nothing at all exactly if there is neither. A path that is absolute or does not collapse to the
empty path may be collapsed before anything is joined to it, and a name that is followed by `..` may
be left out at the end of any path. -/
theorem collapse_composes (path : Text) :
    IsCollapsed (collapse path) ∧
      collapse (collapse path) = collapse path ∧
      (collapse path = path ↔ IsCollapsed path) ∧
      (IsAbsolute path ∨ collapse path ≠ [] → ∀ below,
        collapse (path ++ '/' :: below) = collapse (collapse path ++ '/' :: below)) ∧
      ∀ name, '/' ∉ name → IsName name →
        collapse (path ++ '/' :: name ++ "/..".toList) = collapse path := by
  have collapsed := isCollapsed_collapse path
  refine ⟨collapsed, collapse_of_isCollapsed collapsed, ?_, ?_, ?_⟩
  · constructor
    · intro same
      exact same ▸ collapsed
    · exact collapse_of_isCollapsed
  · intro h below
    exact collapse_below (keptSegments_ne_nil h) below
  · intro name free names
    exact collapse_down_up path free names

/-- An absolute path that collapses to the empty path, joined with a path that goes up again, and a
name that is empty. -/
theorem collapse_composes_root :
    let path := "/a/./..".toList
    let below := "../b/..//c".toList
    (IsAbsolute path ∧ collapse path = [] ∧
        collapse (path ++ '/' :: below) = collapse (collapse path ++ '/' :: below) ∧
        collapse (path ++ '/' :: below) = "//c".toList) ∧
      ('/' ∉ ([] : Text) ∧ IsName [] ∧
        collapse (path ++ '/' :: [] ++ "/..".toList) = collapse path) ∧
      IsCollapsed "//c".toList ∧ collapse "//c".toList = "//c".toList := by
  intro path below
  obtain ⟨-, -, -, joined, up⟩ := collapse_composes path
  have absolute : IsAbsolute path := by decide
  have free : '/' ∉ ([] : Text) := by decide
  have name : IsName [] := by decide
  have plain : IsCollapsed "//c".toList := by decide
  exact ⟨⟨absolute, by decide, joined (.inl absolute) below, by decide⟩,
    ⟨free, name, up [] free name⟩, plain, (collapse_composes "//c".toList).2.2.1.mpr plain⟩

/-- The condition on the path is needed: what is joined to a path of which nothing is kept is
relative, what is joined to the empty path is not. -/
example : collapse "a/../b".toList = "b".toList ∧
    collapse (collapse "a/..".toList ++ '/' :: "b".toList) = "/b".toList := by decide

end CommentDocs.Path
