import CommentDocs.Proofs.Syntax.Leaves

/-!
# What a traversal finds

A traversal with any stack takes as many rounds as there are nodes in the trees of the stack, and
then nothing is left to visit. The leaves that it has found in a tree are told apart by their
places, since equal nodes may stand at different places: they are all nodes of the tree that are
leaves and not empty, each one once, and each to the left of those after it.
-/

namespace CommentDocs.Syntax

namespace Traversal

/-- After a number of rounds there is no other one, and the traversal has become `final`. -/
inductive EndsAfter : Traversal → Nat → Traversal → Prop
  | ended {traversal : Traversal} (ended : traversal.next? = none) : EndsAfter traversal 0 traversal
  | round {traversal next final : Traversal} {rounds : Nat} (round : traversal.next? = some next)
      (rest : EndsAfter next rounds final) : EndsAfter traversal (rounds + 1) final

/-- From any stack, a traversal ends after as many rounds as there are nodes to visit. -/
theorem endsAfter_finish (traversal : Traversal) :
    traversal.EndsAfter traversal.remaining traversal.finish := by
  fun_induction finish traversal with
  | case1 traversal ended =>
    have none : traversal.remaining = 0 := by
      rw [remaining, stack_eq_nil_of_next? ended, Tree.forestSize]
    rw [none]
    exact .ended ended
  | case2 traversal next round ih =>
    rw [remaining_next? round]
    exact .round round ih

end Traversal

namespace Place

variable {left right : Place}

/-- Two places part, and the left one goes through the earlier child. -/
def LeftOf (left right : Place) : Prop :=
  ∃ place first second, Parts place first second left right ∧ first < second

theorem LeftOf.ne (leftOf : left.LeftOf right) : left ≠ right := by
  rintro rfl
  obtain ⟨place, first, second, parts, before⟩ := leftOf
  exact absurd (eq_of_suffix parts.left parts.right) (Nat.ne_of_lt before)

/-- A place below another one is below a child of it. -/
theorem exists_cons_suffix (below : left <:+ right) (differ : left ≠ right) :
    ∃ index, index :: left <:+ right := by
  obtain ⟨lower, rfl⟩ := below
  rcases List.eq_nil_or_concat lower with rfl | ⟨lowest, index, rfl⟩
  · exact absurd rfl differ
  · exact ⟨index, lowest, by simp⟩

end Place

namespace Located

/-- The leaves of a located tree that cover at least one byte, from left to right, each at its
place. -/
def fringe (located : Located) : List Located :=
  if located.tree.leaf?.isSome then [located]
  else located.children.attach.flatMap fun ⟨child, _mem⟩ => child.fringe
termination_by sizeOf located.tree
decreasing_by exact sizeOf_lt_of_mem_children _mem

variable {root : Tree} {located leaf : Located}

theorem fringe_of_leaf (found : located.tree.leaf?.isSome) : located.fringe = [located] := by
  rw [fringe, if_pos found]

theorem fringe_of_not_leaf (other : ¬ located.tree.leaf?.isSome) :
    located.fringe = located.children.flatMap fringe := by
  rw [fringe, if_neg other, List.flatMap_subtype fun _ _ => rfl, List.unattach_attach]

theorem map_tree_children (located : Located) :
    located.children.map tree = located.tree.children := by
  rw [children, List.map_map]
  exact List.zipIdx_map_fst 0 located.tree.children

theorem mem_children_of_getElem? {index : Nat} {node : Tree}
    (found : located.tree.children[index]? = some node) :
    ⟨index :: located.place, node⟩ ∈ located.children :=
  List.mem_map.mpr ⟨(node, index), List.mem_zipIdx_iff_getElem?.mpr found, rfl⟩

/-- Without their places, these are the leaves of the tree. -/
theorem map_tree_fringe (located : Located) : located.fringe.map tree = located.tree.fringe := by
  induction located using fringe.induct with
  | case1 located found =>
    obtain ⟨childless, covers⟩ := Tree.leaf?_isSome_iff.mp found
    rw [fringe_of_leaf found, ← Tree.leaves_eq_fringe, Tree.leaves_of_covers childless covers]
    rfl
  | case2 located other ih =>
    rw [fringe_of_not_leaf other, List.map_flatMap, Tree.fringe_eq,
      Option.not_isSome_iff_eq_none.mp other, Tree.forestFringe_eq_flatMap, ← map_tree_children,
      List.flatMap_map]
    exact List.flatMap_congr ih

theorem suffix_of_mem_fringe (mem : leaf ∈ located.fringe) : located.place <:+ leaf.place := by
  induction located using fringe.induct with
  | case1 located found =>
    rw [fringe_of_leaf found] at mem
    obtain rfl := List.mem_singleton.mp mem
    exact List.suffix_refl _
  | case2 located other ih =>
    rw [fringe_of_not_leaf other] at mem
    obtain ⟨child, inside, deeper⟩ := List.mem_flatMap.mp mem
    obtain ⟨index, placed, -⟩ := mem_children inside
    have below := ih child inside deeper
    rw [placed] at below
    exact (List.suffix_cons index located.place).trans below

theorem eq_of_place_eq (here : located.At root) (there : leaf.At root)
    (same : located.place = leaf.place) : located = leaf := by
  obtain ⟨place, node⟩ := located
  obtain ⟨_, other⟩ := leaf
  cases same
  rw [At] at here there
  rw [here] at there
  cases there
  rfl

/-- A leaf below a node is below one of its children. -/
theorem exists_child_of_leafAt (here : located.At root) (isLeaf : LeafAt root leaf)
    (below : located.place <:+ leaf.place) (differ : located.place ≠ leaf.place) :
    ∃ child ∈ located.children, child.place <:+ leaf.place := by
  obtain ⟨index, further⟩ := Place.exists_cons_suffix below differ
  obtain ⟨node, there⟩ := Tree.exists_nodeAt?_of_suffix isLeaf.there further
  obtain ⟨parent, above, child⟩ := Tree.nodeAt?_cons there
  rw [here] at above
  cases above
  exact ⟨_, mem_children_of_getElem? child, further⟩

/-- What is found for a node of a tree are all leaves of the tree below it. -/
theorem mem_fringe_iff (here : located.At root) :
    leaf ∈ located.fringe ↔ LeafAt root leaf ∧ located.place <:+ leaf.place := by
  induction located using fringe.induct with
  | case1 located found =>
    obtain ⟨childless, covers⟩ := Tree.leaf?_isSome_iff.mp found
    rw [fringe_of_leaf found, List.mem_singleton]
    constructor
    · rintro rfl
      exact ⟨⟨here, childless, covers⟩, List.suffix_refl _⟩
    · rintro ⟨isLeaf, below⟩
      have same := Tree.eq_of_suffix_of_childless here childless below isLeaf.there
      exact (eq_of_place_eq here isLeaf.there same).symm
  | case2 located other ih =>
    constructor
    · intro mem
      have below := suffix_of_mem_fringe mem
      rw [fringe_of_not_leaf other] at mem
      obtain ⟨child, inside, deeper⟩ := List.mem_flatMap.mp mem
      exact ⟨((ih child inside (here.of_mem_children inside)).mp deeper).1, below⟩
    · rintro ⟨isLeaf, below⟩
      -- the node is no leaf, so the leaf is further down, in the branch of a child
      have differ : located.place ≠ leaf.place := by
        intro same
        obtain rfl := eq_of_place_eq here isLeaf.there same
        exact other (Tree.leaf?_isSome_iff.mpr ⟨isLeaf.childless, isLeaf.covers⟩)
      obtain ⟨child, inside, further⟩ := exists_child_of_leafAt here isLeaf below differ
      have deeper := (ih child inside (here.of_mem_children inside)).mpr ⟨isLeaf, further⟩
      rw [fringe_of_not_leaf other]
      exact List.mem_flatMap.mpr ⟨child, inside, deeper⟩

/-- The leaves below one child are to the left of those below later children. -/
theorem pairwise_fringe (located : Located) :
    located.fringe.Pairwise fun leaf next => leaf.place.LeftOf next.place := by
  induction located using fringe.induct with
  | case1 located found =>
    rw [fringe_of_leaf found]
    exact List.pairwise_singleton _ _
  | case2 located other ih =>
    have inRow : InRow located.place located.children := inRow_row
    rw [fringe_of_not_leaf other]
    refine List.pairwise_flatMap.mpr ⟨ih, inRow.sorted.imp_of_mem ?_⟩
    intro child sibling inside beside before leaf mem next later
    obtain ⟨first, branch, -⟩ := mem_children inside
    obtain ⟨second, branching, -⟩ := mem_children beside
    -- the places of the two leaves part at the node, where the children do
    have left := suffix_of_mem_fringe mem
    have right := suffix_of_mem_fringe later
    rw [branch] at left
    rw [branching] at right
    have earlier : first < second :=
      before first second (branch ▸ List.suffix_refl _) (branching ▸ List.suffix_refl _)
    exact ⟨located.place, first, second, ⟨left, right⟩, earlier⟩

end Located

/-- All leaves of a tree that are not empty, each of them to the left of those after it. -/
structure LeftToRight (root : Tree) (leaves : List Located) : Prop where
  mem_iff : ∀ leaf, leaf ∈ leaves ↔ LeafAt root leaf
  ordered : leaves.Pairwise fun leaf next => leaf.place.LeftOf next.place

/-- No place occurs twice. -/
theorem LeftToRight.nodup {root : Tree} {leaves : List Located} (sorted : LeftToRight root leaves) :
    (leaves.map Located.place).Nodup := by
  refine List.pairwise_map.mpr (sorted.ordered.imp ?_)
  exact fun leftOf => leftOf.ne

theorem leftToRight_fringe (root : Tree) : LeftToRight root (Located.fringe ⟨[], root⟩) where
  mem_iff leaf := by
    have here : Located.At root ⟨[], root⟩ := rfl
    simp [Located.mem_fringe_iff here]
  ordered := Located.pairwise_fringe _

/-- The traversal of a tree ends, after as many rounds as the tree has nodes. By then it has found
the leaves of the tree that recursion finds: all leaves at their places from left to right, each
place once. -/
theorem Traversal.ofTree_ends_with_leaves (root : Tree) :
    (Traversal.ofTree root).EndsAfter root.size ⟨[], root.leaves.reverse⟩ ∧
      root.leaves = root.fringe ∧
        ∃ leaves : List Located, leaves.map Located.tree = root.leaves ∧
          LeftToRight root leaves ∧ (leaves.map Located.place).Nodup := by
  have ends := (Traversal.ofTree root).endsAfter_finish
  have nodes : (Traversal.ofTree root).remaining = root.size := by
    simp [remaining, ofTree, push, Tree.forestSize]
  have final : (Traversal.ofTree root).finish = ⟨[], root.leaves.reverse⟩ := by
    rw [Tree.leaves, finish_eq]
    simp
  refine ⟨?_, root.leaves_eq_fringe, Located.fringe ⟨[], root⟩, ?_, ?_⟩
  · rw [← nodes, ← final]
    exact ends
  · rw [Located.map_tree_fringe, root.leaves_eq_fringe]
  · exact ⟨leftToRight_fringe root, (leftToRight_fringe root).nodup⟩

/-- A tree of a broken program, with a mark of width zero in front of a block. -/
def recoveredTree : Tree :=
  .node "program".toList 0 2 true none [
    .node ";".toList 0 1 false none [],
    .node ";".toList 1 1 false none [],
    .node "statement_block".toList 1 2 true none [.node ";".toList 1 2 false none []]]

/-- What covers nothing is passed over. -/
example : recoveredTree.leaves.map (fun leaf => (leaf.start, leaf.stop)) = [(0, 1), (1, 2)] ∧
    (Located.fringe ⟨[], recoveredTree⟩).map Located.place = [[0], [0, 2]] := by
  decide +kernel

end CommentDocs.Syntax
