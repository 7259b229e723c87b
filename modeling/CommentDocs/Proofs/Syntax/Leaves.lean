import CommentDocs.Proofs.Syntax.Located
import CommentDocs.Proofs.Syntax.Lookups
import CommentDocs.Proofs.Syntax.Positions
import Mathlib.Data.List.Flatten

/-!
# Leaves by their places

A node at a place of a tree brings its leaves to those of the tree, and where two places part, the
leaves of the earlier branch come first. So nodes without children are leaves at known positions.
A leaf that is no comment becomes a token of its own, and stands there as itself in the stream:
whatever is found right before it in the source is the token before it.
-/

namespace CommentDocs.Syntax

namespace Tree

theorem forestFringe_eq_flatMap (forest : List Tree) :
    forestFringe forest = forest.flatMap fringe := by
  induction forest with
  | nil => rfl
  | cons tree rest ih => rw [forestFringe, ih, List.flatMap_cons]

/-- The leaves of a node with children are theirs. -/
theorem leaves_eq_flatMap {node : Tree} (parent : node.children ≠ []) :
    node.leaves = node.children.flatMap leaves := by
  rw [funext leaves_eq_fringe, fringe_eq, forestFringe_eq_flatMap, leaf?, if_neg (by simp [parent])]
  rfl

variable {root node below : Tree} {place lower : Place}

theorem leaves_eq_flatMap_of_child {index : Nat} (child : node.children[index]? = some below) :
    node.leaves = node.children.flatMap leaves := by
  refine leaves_eq_flatMap fun none => ?_
  rw [none] at child
  cases child

/-- A node without children that has a width is its own leaf. -/
theorem leaves_of_covers (childless : node.children = []) (covers : node.covers) :
    node.leaves = [node] := by
  rw [leaves_eq_fringe, fringe_eq, childless, leaf?, if_pos (by simp [childless, covers])]
  rfl

/-- The leaves of a node are among those of the nodes above it, in order. -/
theorem sublist_leaves_of_suffix (found : root.nodeAt? place = some node) (deeper : place <:+ lower)
    (there : root.nodeAt? lower = some below) : below.leaves.Sublist node.leaves := by
  induction lower generalizing below with
  | nil =>
    obtain rfl := List.suffix_nil.mp deeper
    rw [found] at there
    cases there
    exact List.Sublist.refl _
  | cons index above ih =>
    rcases List.suffix_cons_iff.mp deeper with rfl | further
    · rw [found] at there
      cases there
      exact List.Sublist.refl _
    · obtain ⟨parent, present, child⟩ := nodeAt?_cons there
      refine List.Sublist.trans ?_ (ih further present)
      rw [leaves_eq_flatMap_of_child child]
      exact List.sublist_flatten_of_mem (List.mem_map_of_mem (List.mem_of_getElem? child))

/-- The leaves of a node of a tree are among those of the tree, in order. -/
theorem sublist_leaves (there : root.nodeAt? lower = some below) :
    below.leaves.Sublist root.leaves := by
  have top : root.nodeAt? [] = some root := rfl
  exact sublist_leaves_of_suffix top List.nil_suffix there

/-- Nothing lies below a node without children. -/
theorem eq_of_suffix_of_childless (found : root.nodeAt? place = some node)
    (childless : node.children = []) (deeper : place <:+ lower)
    (there : root.nodeAt? lower = some below) : place = lower := by
  induction lower generalizing below with
  | nil => exact List.suffix_nil.mp deeper
  | cons index above ih =>
    rcases List.suffix_cons_iff.mp deeper with same | further
    · exact same
    · obtain ⟨parent, present, child⟩ := nodeAt?_cons there
      obtain rfl := ih further present
      rw [found] at present
      cases present
      rw [childless] at child
      cases child

/-- Where two places part, the leaves below the earlier branch come before those below the other. -/
theorem leaves_of_parts {R : Tree → Tree → Prop} (ordered : root.leaves.Pairwise R)
    {first second : Nat} {left right : Place} {one other : Tree}
    (parts : place.Parts first second left right) (before : first < second)
    (here : root.nodeAt? left = some one) (there : root.nodeAt? right = some other) :
    ∀ leaf ∈ one.leaves, ∀ next ∈ other.leaves, R leaf next := by
  obtain ⟨branch, found⟩ := exists_nodeAt?_of_suffix here parts.left
  obtain ⟨beside, present⟩ := exists_nodeAt?_of_suffix there parts.right
  obtain ⟨parent, above, earlier⟩ := nodeAt?_cons found
  obtain ⟨same, again, later⟩ := nodeAt?_cons present
  rw [above] at again
  cases again
  have inside := ordered.sublist (sublist_leaves above)
  rw [leaves_eq_flatMap_of_child earlier] at inside
  have apart := (List.pairwise_flatMap.mp inside).2
  obtain ⟨bound, rfl⟩ := List.getElem?_eq_some_iff.mp earlier
  obtain ⟨limit, rfl⟩ := List.getElem?_eq_some_iff.mp later
  intro leaf mem next also
  exact List.pairwise_iff_getElem.mp apart first second bound limit before leaf
    ((sublist_leaves_of_suffix found parts.left here).subset mem) next
    ((sublist_leaves_of_suffix present parts.right there).subset also)

end Tree

/-- A node of a tree that is a leaf and not empty. -/
structure LeafAt (root : Tree) (located : Located) : Prop where
  there : located.At root
  childless : located.tree.children = []
  covers : located.tree.covers

namespace LeafAt

variable {source : Text} {root : Tree} {located other : Located}

theorem leaves (leaf : LeafAt root located) : located.tree.leaves = [located.tree] :=
  Tree.leaves_of_covers leaf.childless leaf.covers

theorem mem_leaves (leaf : LeafAt root located) : located.tree ∈ root.leaves := by
  have inside := Tree.sublist_leaves leaf.there
  rw [leaf.leaves] at inside
  exact inside.subset (List.mem_singleton_self _)

/-- Of two leaves at different places, one ends before the other starts. -/
theorem apart (placed : Placed source root.leaves) (leaf : LeafAt root located)
    (next : LeafAt root other) (differ : located.place ≠ other.place) :
    located.tree.stop ≤ other.tree.start ∨ other.tree.stop ≤ located.tree.start := by
  rcases Place.suffix_or_parts located.place other.place with above | below |
    ⟨place, first, second, branches, parts⟩
  · exact absurd (Tree.eq_of_suffix_of_childless leaf.there leaf.childless above next.there) differ
  · exact absurd (Tree.eq_of_suffix_of_childless next.there next.childless below leaf.there).symm
      differ
  · rcases Nat.lt_or_gt_of_ne branches with before | after
    · exact .inl (Tree.leaves_of_parts placed.ordered parts before leaf.there next.there _
        (by simp [leaf.leaves]) _ (by simp [next.leaves]))
    · exact .inr (Tree.leaves_of_parts placed.ordered parts.symm after next.there leaf.there _
        (by simp [next.leaves]) _ (by simp [leaf.leaves]))

end LeafAt

variable {source : Text} {root : Tree} {tokens : List Token}

/-- A token that covers one leaf is the token of that leaf. -/
theorem Token.Covers.eq_leafToken {token : Token} {leaf : Tree}
    (covers : token.Covers source [leaf]) : token = leafToken source leaf := by
  obtain ⟨first, last, head, final, span⟩ := covers.span
  cases head
  cases final
  have span : token.span = leaf.span source := span
  have kind := covers.kind leaf (List.mem_singleton_self leaf)
  have text : token.text = leafBody source leaf := covers.text
  rw [leafToken, kind, ← text, ← span]

/-- Only comments are joined, so the token that covers another leaf covers nothing else. -/
theorem Partition.leafToken_mem {leaves : List Tree} (partition : Partition source leaves tokens)
    {leaf : Tree} (mem : leaf ∈ leaves) (code : leaf.isComment = false) :
    leafToken source leaf ∈ tokens := by
  obtain ⟨parts, rfl, rfl, covers⟩ := partition.parts
  obtain ⟨⟨token, run⟩, inside, here⟩ := List.mem_flatMap.mp mem
  have covered := covers _ inside
  have alone : run = [leaf] := by
    cases run with
    | nil => cases here
    | cons first rest =>
      cases rest with
      | nil => rw [List.mem_singleton.mp here]
      | cons second others =>
        have joined := covered.merged (by simp) leaf here
        simp [standsAlone, code] at joined
  subst alone
  exact List.mem_map.mpr ⟨_, inside, covered.eq_leafToken⟩

theorem Partition.inSequence {leaves : List Tree} (partition : Partition source leaves tokens) :
    InSequence tokens where
  wide := partition.wide
  next := partition.ordered.isChain

/-- The tokens that end where one of the tokens starts, or earlier, are those before it. -/
theorem InSequence.filter_stop_le {before after : List Token} {token : Token}
    (sequence : InSequence (before ++ token :: after)) :
    (before ++ token :: after).filter (·.span.stop ≤ token.span.start) = before := by
  obtain ⟨-, later, apart⟩ := List.pairwise_append.mp sequence.ordered
  rw [List.filter_append, List.filter_eq_self.mpr, List.filter_eq_nil_iff.mpr, List.append_nil]
  · intro other mem ends
    have ends := of_decide_eq_true ends
    have width := sequence.wide other (List.mem_append_right before mem)
    rcases List.mem_cons.mp mem with rfl | further
    · omega
    · have wide := sequence.wide token (by simp)
      have follows := (List.pairwise_cons.mp later).1 other further
      omega
  · exact fun other mem => decide_eq_true (apart other mem token List.mem_cons_self)

end CommentDocs.Syntax
