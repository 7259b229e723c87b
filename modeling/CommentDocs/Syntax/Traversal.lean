import CommentDocs.Syntax.Tree

/-!
# Traversals

The leaves of a tree are found without recursion. A traversal has a stack of trees that are
still to be visited. In each round the tree on top is taken off: without children it is a leaf,
otherwise its children are put in its place, the last one first, so that the first one ends up
on top.

Each round takes one node off those that remain, so a traversal comes to an end. What has been
found, followed by the fringe of the stack, is the same before and after a round: a traversal of
a tree finds the fringe of the tree.
-/

namespace CommentDocs.Syntax

/-- A traversal: the trees that are still to be visited, the next one first, and the leaves that
have been found, the last one first. -/
structure Traversal where
  stack : List Tree
  found : List Tree

namespace Traversal

def push (stack : List Tree) (tree : Tree) : List Tree :=
  tree :: stack

def ofTree (root : Tree) : Traversal where
  stack := push [] root
  found := []

/-- One round, unless there is nothing left to visit. -/
def next? : Traversal → Option Traversal
  | ⟨[], _⟩ => none
  | ⟨tree :: rest, found⟩ =>
    if tree.children.isEmpty then
      if tree.covers then some ⟨rest, tree :: found⟩ else some ⟨rest, found⟩
    else some ⟨tree.children.reverse.foldl push rest, found⟩

/-- The number of nodes that are still to be visited. -/
def remaining (traversal : Traversal) : Nat :=
  Tree.forestSize traversal.stack

/-- The leaves that have been found, and then those of the trees on the stack. -/
def outcome (traversal : Traversal) : List Tree :=
  traversal.found.reverse ++ Tree.forestFringe traversal.stack

theorem foldl_push_reverse (trees stack : List Tree) :
    trees.reverse.foldl push stack = trees ++ stack := by
  rw [List.foldl_reverse]
  exact List.foldr_cons_eq_append'

/-- A node gives way to its children, and it is found if it is a leaf. -/
theorem next?_cons (tree : Tree) (rest found : List Tree) :
    next? ⟨tree :: rest, found⟩ =
      some ⟨tree.children ++ rest, tree.leaf?.toList ++ found⟩ := by
  rw [next?, foldl_push_reverse, Tree.leaf?]
  by_cases childless : tree.children = []
  · cases tree.covers <;> simp [childless]
  · simp [childless]

variable {traversal next : Traversal}

/-- A round is the visit of the node on top of the stack. -/
theorem next?_cases (round : traversal.next? = some next) :
    ∃ tree rest, traversal.stack = tree :: rest ∧ next.stack = tree.children ++ rest ∧
      next.found = tree.leaf?.toList ++ traversal.found := by
  obtain ⟨_ | ⟨tree, rest⟩, found⟩ := traversal
  · cases round
  · rw [next?_cons] at round
    cases round
    exact ⟨tree, rest, rfl, rfl, rfl⟩

theorem stack_eq_nil_of_next? (ended : traversal.next? = none) : traversal.stack = [] := by
  obtain ⟨_ | ⟨tree, rest⟩, found⟩ := traversal
  · rfl
  · rw [next?_cons] at ended
    cases ended

theorem remaining_next? (round : traversal.next? = some next) :
    traversal.remaining = next.remaining + 1 := by
  obtain ⟨tree, rest, before, after, -⟩ := next?_cases round
  rw [remaining, before, remaining, after, Tree.forestSize, Tree.size_eq, Tree.forestSize_append]
  omega

theorem outcome_next? (round : traversal.next? = some next) :
    next.outcome = traversal.outcome := by
  obtain ⟨tree, rest, before, after, found⟩ := next?_cases round
  have once : tree.leaf?.toList.reverse = tree.leaf?.toList := by cases tree.leaf? <;> rfl
  rw [outcome, outcome, before, after, found, List.reverse_append, once, Tree.forestFringe_append,
    Tree.forestFringe, Tree.fringe_eq, List.append_assoc, List.append_assoc]

def finish (traversal : Traversal) : Traversal :=
  match _round : traversal.next? with
  | none => traversal
  | some next => next.finish
termination_by traversal.remaining
decreasing_by
  rw [remaining_next? _round]
  exact Nat.lt_succ_self _

/-- In the end there is nothing left to visit, and everything has been found. -/
theorem finish_eq (traversal : Traversal) : traversal.finish = ⟨[], traversal.outcome.reverse⟩ := by
  fun_induction finish traversal with
  | case1 traversal ended =>
    obtain ⟨stack, found⟩ := traversal
    obtain rfl : stack = [] := stack_eq_nil_of_next? ended
    simp [outcome, Tree.forestFringe]
  | case2 traversal next round ih => rw [ih, outcome_next? round]

end Traversal

namespace Tree

/-- The leaves of a tree that a traversal finds, the first one first. -/
def leaves (root : Tree) : List Tree :=
  (Traversal.ofTree root).finish.found.reverse

/-- A traversal of a tree finds its fringe. -/
theorem leaves_eq_fringe (root : Tree) : root.leaves = root.fringe := by
  rw [leaves, Traversal.finish_eq, List.reverse_reverse]
  simp [Traversal.outcome, Traversal.ofTree, Traversal.push, Tree.forestFringe]

end Tree

end CommentDocs.Syntax
