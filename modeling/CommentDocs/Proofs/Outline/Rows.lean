import CommentDocs.Outline.Basic

/-!
# Outlines row by row

An outline is read from top to bottom: every label with its depth, a label before what stands
below it. The depths make up for the lost branches, so no two outlines have the same rows
(`rows_inj`), and what an outline looks like can be said by listing its rows.
-/

namespace CommentDocs.Outline

/-- A label of an outline and how far it stands below the top. -/
structure Row where
  depth : Nat
  label : Text
  deriving DecidableEq, Repr

mutual

/-- The rows of an outline whose own label stands at `depth`. -/
def rows (depth : Nat) : Outline → List Row
  | .node label children => ⟨depth, label⟩ :: rowsAll (depth + 1) children

/-- The rows of outlines that stand beside each other. -/
def rowsAll (depth : Nat) : List Outline → List Row
  | [] => []
  | child :: rest => rows depth child ++ rowsAll depth rest

end

variable (depth : Nat)

theorem rowsAll_eq_flatMap (outlines : List Outline) :
    rowsAll depth outlines = outlines.flatMap (rows depth) := by
  induction outlines with
  | nil => rfl
  | cons child rest ih => rw [rowsAll, ih, List.flatMap_cons]

theorem rowsAll_append (outlines more : List Outline) :
    rowsAll depth (outlines ++ more) = rowsAll depth outlines ++ rowsAll depth more := by
  rw [rowsAll_eq_flatMap, List.flatMap_append, ← rowsAll_eq_flatMap, ← rowsAll_eq_flatMap]

theorem rowsAll_map_leaf (labels : List Text) :
    rowsAll depth (labels.map leaf) = labels.map fun label => ⟨depth, label⟩ := by
  induction labels with
  | nil => rfl
  | cons label labels ih =>
    rw [List.map_cons, rowsAll, ih]
    rfl

/-- The first row, if there is one, stands above `depth`. -/
def StartsAbove (depth : Nat) (rest : List Row) : Prop :=
  ∀ row ∈ rest.head?, row.depth < depth

theorem StartsAbove.succ {depth : Nat} {rest : List Row} (above : StartsAbove depth rest) :
    StartsAbove (depth + 1) rest := fun row first => Nat.lt_succ_of_lt (above row first)

theorem startsAbove_rowsAll_append {depth : Nat} (outlines : List Outline) {rest : List Row}
    (above : StartsAbove depth rest) :
    StartsAbove (depth + 1) (rowsAll depth outlines ++ rest) := by
  cases outlines with
  | nil => exact above.succ
  | cons child others =>
    obtain ⟨label, children⟩ := child
    intro row first
    rw [rowsAll, rows] at first
    obtain rfl := Option.some.inj (Option.mem_def.mp first)
    exact Nat.lt_succ_self depth

mutual

/-- The rows of an outline can be told from the rows that follow it. -/
theorem rows_append_inj {depth : Nat} (a b : Outline) {rest others : List Row}
    (above : StartsAbove (depth + 1) rest) (above' : StartsAbove (depth + 1) others)
    (same : rows depth a ++ rest = rows depth b ++ others) : a = b ∧ rest = others := by
  obtain ⟨label, children⟩ := a
  obtain ⟨label', children'⟩ := b
  rw [rows, rows, List.cons_append, List.cons_append] at same
  obtain ⟨first, below⟩ := List.cons.inj same
  obtain ⟨rfl, rfl⟩ := rowsAll_append_inj children children' above above' below
  exact ⟨by rw [(Row.mk.inj first).2], rfl⟩

theorem rowsAll_append_inj {depth : Nat} (as bs : List Outline) {rest others : List Row}
    (above : StartsAbove depth rest) (above' : StartsAbove depth others)
    (same : rowsAll depth as ++ rest = rowsAll depth bs ++ others) : as = bs ∧ rest = others := by
  have late {outline : Outline} {more rest : List Row} (above : StartsAbove depth rest) :
      rest ≠ rows depth outline ++ more := by
    rintro rfl
    obtain ⟨label, children⟩ := outline
    exact Nat.lt_irrefl depth (above ⟨depth, label⟩ rfl)
  cases as with
  | nil =>
    cases bs with
    | nil => exact ⟨rfl, same⟩
    | cons b bs =>
      rw [rowsAll, rowsAll, List.nil_append, List.append_assoc] at same
      exact absurd same (late above)
  | cons a as =>
    cases bs with
    | nil =>
      rw [rowsAll, rowsAll, List.nil_append, List.append_assoc] at same
      exact absurd same.symm (late above')
    | cons b bs =>
      rw [rowsAll, rowsAll, List.append_assoc, List.append_assoc] at same
      obtain ⟨rfl, beside⟩ := rows_append_inj a b (startsAbove_rowsAll_append as above)
        (startsAbove_rowsAll_append bs above') same
      obtain ⟨rfl, tail⟩ := rowsAll_append_inj as bs above above' beside
      exact ⟨rfl, tail⟩

end

/-- No two outlines have the same rows. -/
theorem rows_inj {depth : Nat} {a b : Outline} : rows depth a = rows depth b ↔ a = b := by
  constructor
  · intro same
    have ends : StartsAbove (depth + 1) [] := fun _ first => by cases first
    exact (rows_append_inj a b ends ends (congrArg (· ++ []) same)).1
  · rintro rfl
    rfl

end CommentDocs.Outline
