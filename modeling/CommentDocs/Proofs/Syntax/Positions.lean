import CommentDocs.Proofs.Syntax.Places

/-!
# Trees ordered by position

The trees of a parser are ordered: a node does not end before it starts, its children lie within
it, and each of them starts where or after the one before it ends. Then whatever lies below a
node lies within it, and where two places part the positions follow the branches.
-/

namespace CommentDocs.Syntax.Tree

mutual

/-- Whether the children of all nodes are ordered by position. -/
def isOrdered : Tree → Bool
  | node _ start stop _ _ children => start ≤ stop && areOrdered start stop children

/-- Whether trees next to each other are ordered, between two positions. -/
def areOrdered (low high : Nat) : List Tree → Bool
  | [] => low ≤ high
  | child :: rest => low ≤ child.start && isOrdered child && areOrdered child.stop high rest

end

section

variable {tree child : Tree} {low high index : Nat} {children : List Tree}

theorem start_le_stop_of_isOrdered (ordered : tree.isOrdered) : tree.start ≤ tree.stop := by
  cases tree
  rw [isOrdered, Bool.and_eq_true] at ordered
  exact of_decide_eq_true ordered.1

theorem areOrdered_cons :
    areOrdered low high (child :: children) ↔
      low ≤ child.start ∧ child.isOrdered ∧ areOrdered child.stop high children := by
  rw [areOrdered, Bool.and_eq_true, Bool.and_eq_true, decide_eq_true_iff, and_assoc]

theorem le_of_areOrdered (ordered : areOrdered low high children) : low ≤ high := by
  induction children generalizing low with
  | nil => exact of_decide_eq_true ordered
  | cons first rest ih =>
    obtain ⟨after, inner, others⟩ := areOrdered_cons.mp ordered
    exact Nat.le_trans (Nat.le_trans after (start_le_stop_of_isOrdered inner)) (ih others)

/-- What stands among ordered trees is ordered and lies between the two positions. -/
theorem within_of_areOrdered (ordered : areOrdered low high children)
    (found : children[index]? = some child) :
    low ≤ child.start ∧ child.isOrdered ∧ child.stop ≤ high := by
  induction children generalizing low index with
  | nil => cases found
  | cons first rest ih =>
    obtain ⟨after, inner, others⟩ := areOrdered_cons.mp ordered
    cases index with
    | zero =>
      cases found
      exact ⟨after, inner, le_of_areOrdered others⟩
    | succ index =>
      obtain ⟨later, own, before⟩ := ih others found
      have passed := start_le_stop_of_isOrdered inner
      exact ⟨by omega, own, before⟩

/-- Of two ordered trees the later one starts after the end of the earlier one. -/
theorem stop_le_start_of_areOrdered {other : Nat} {later : Tree}
    (ordered : areOrdered low high children) (found : children[index]? = some child)
    (next : children[other]? = some later) (before : index < other) :
    child.stop ≤ later.start := by
  induction children generalizing low index other with
  | nil => cases found
  | cons first rest ih =>
    obtain ⟨-, -, others⟩ := areOrdered_cons.mp ordered
    cases other with
    | zero => cases before
    | succ other =>
      cases index with
      | zero =>
        cases found
        exact (within_of_areOrdered others next).1
      | succ index => exact ih others found next (Nat.lt_of_succ_lt_succ before)

theorem areOrdered_children (ordered : tree.isOrdered) :
    areOrdered tree.start tree.stop tree.children := by
  cases tree
  rw [isOrdered, Bool.and_eq_true] at ordered
  exact ordered.2

end

section

variable {root : Tree} {place lower : Place} {node below : Tree}

theorem nodeAt?_cons {index : Nat} (found : root.nodeAt? (index :: place) = some below) :
    ∃ node, root.nodeAt? place = some node ∧ node.children[index]? = some below :=
  Option.bind_eq_some_iff.mp found

theorem exists_nodeAt?_of_suffix (found : root.nodeAt? lower = some below)
    (deeper : place <:+ lower) : ∃ node, root.nodeAt? place = some node := by
  induction lower generalizing below with
  | nil =>
    rw [List.suffix_nil.mp deeper]
    exact ⟨root, rfl⟩
  | cons index above ih =>
    rcases List.suffix_cons_iff.mp deeper with rfl | further
    · exact ⟨below, found⟩
    · obtain ⟨node, there, -⟩ := nodeAt?_cons found
      exact ih there further

theorem isOrdered_of_nodeAt? (ordered : root.isOrdered) (found : root.nodeAt? place = some node) :
    node.isOrdered := by
  induction place generalizing node with
  | nil =>
    cases found
    exact ordered
  | cons index above ih =>
    obtain ⟨parent, there, child⟩ := nodeAt?_cons found
    exact (within_of_areOrdered (areOrdered_children (ih there)) child).2.1

/-- Nodes lie within the nodes above them. -/
theorem within_of_suffix (ordered : root.isOrdered) (found : root.nodeAt? place = some node)
    (deeper : place <:+ lower) (there : root.nodeAt? lower = some below) :
    node.start ≤ below.start ∧ below.stop ≤ node.stop := by
  induction lower generalizing below with
  | nil =>
    cases List.suffix_nil.mp deeper
    rw [found] at there
    cases there
    exact ⟨Nat.le_refl _, Nat.le_refl _⟩
  | cons index above ih =>
    rcases List.suffix_cons_iff.mp deeper with rfl | further
    · rw [found] at there
      cases there
      exact ⟨Nat.le_refl _, Nat.le_refl _⟩
    · obtain ⟨parent, present, child⟩ := nodeAt?_cons there
      obtain ⟨after, before⟩ := ih further present
      obtain ⟨first, -, last⟩ :=
        within_of_areOrdered (areOrdered_children (isOrdered_of_nodeAt? ordered present)) child
      exact ⟨Nat.le_trans after first, Nat.le_trans last before⟩

/-- The node at one place ends where or before the node at another place starts. Two empty nodes at
one position do not count, nor does a node that contains the other one, which is empty then. -/
structure EndsBefore (root : Tree) (left right : Place) : Prop where
  apart : ∃ one other, root.nodeAt? left = some one ∧ root.nodeAt? right = some other ∧
    one.stop ≤ other.start ∧ one.start < other.stop
  outside : ¬ left <:+ right

/-- Where two places part, the node in the earlier branch ends before the other one starts. -/
theorem stop_le_start_of_parts (ordered : root.isOrdered) {first second : Nat}
    {left right : Place} {one other : Tree} (parts : place.Parts first second left right)
    (before : first < second) (here : root.nodeAt? left = some one)
    (there : root.nodeAt? right = some other) : one.stop ≤ other.start := by
  obtain ⟨branch, found⟩ := exists_nodeAt?_of_suffix here parts.left
  obtain ⟨next, present⟩ := exists_nodeAt?_of_suffix there parts.right
  obtain ⟨parent, above, earlier⟩ := nodeAt?_cons found
  obtain ⟨same, again, later⟩ := nodeAt?_cons present
  rw [above] at again
  cases again
  have inner := areOrdered_children (isOrdered_of_nodeAt? ordered above)
  calc one.stop
    _ ≤ branch.stop := (within_of_suffix ordered found parts.left here).2
    _ ≤ next.start := stop_le_start_of_areOrdered inner earlier later before
    _ ≤ other.start := (within_of_suffix ordered present parts.right there).1

end

end CommentDocs.Syntax.Tree
