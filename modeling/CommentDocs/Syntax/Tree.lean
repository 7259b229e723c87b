import CommentDocs.Text.Basic

/-!
# Syntax trees

A parser delivers a tree whose nodes have a type, a range of bytes in the source, and
possibly the name of the field that they fill in their parent. Trees of broken programs
are trees like any other: nothing is assumed about the ranges.

The nodes of a tree without children are its leaves. Those that cover at least one byte, from
left to right, are its *fringe*, said here by recursion.
-/

namespace CommentDocs.Syntax

inductive Tree where
  | node (type : Text) (start stop : Nat) (isNamed : Bool) (field : Option Text)
      (children : List Tree)
  deriving Repr

namespace Tree

def type : Tree → Text
  | node type .. => type

def start : Tree → Nat
  | node _ start .. => start

def stop : Tree → Nat
  | node _ _ stop .. => stop

/-- Whether a node is more than punctuation. -/
def isNamed : Tree → Bool
  | node _ _ _ isNamed .. => isNamed

def field : Tree → Option Text
  | node _ _ _ _ field _ => field

def children : Tree → List Tree
  | node _ _ _ _ _ children => children

def commentType : Text := "comment".toList

def isComment (tree : Tree) : Bool :=
  tree.type = commentType

/-- Whether a node counts as a part of the construct that its parent is. -/
def isPart (tree : Tree) : Bool :=
  tree.isNamed && !tree.isComment

/-- The children that are parts of a construct. -/
def parts (tree : Tree) : List Tree :=
  tree.children.filter isPart

def child? (field : Text) (tree : Tree) : Option Tree :=
  tree.children.find? fun child => child.field = some field

def covers (tree : Tree) : Bool :=
  tree.start < tree.stop

mutual

/-- The leaves of a tree that cover at least one byte, from left to right. -/
def fringe : Tree → List Tree
  | node type start stop isNamed field [] =>
    if start < stop then [node type start stop isNamed field []] else []
  | node _ _ _ _ _ (child :: rest) => forestFringe (child :: rest)

def forestFringe : List Tree → List Tree
  | [] => []
  | tree :: rest => fringe tree ++ forestFringe rest

end

mutual

def size : Tree → Nat
  | node _ _ _ _ _ children => forestSize children + 1

def forestSize : List Tree → Nat
  | [] => 0
  | tree :: rest => size tree + forestSize rest

end

theorem forestSize_append (as bs : List Tree) :
    forestSize (as ++ bs) = forestSize as + forestSize bs := by
  induction as with
  | nil => simp [forestSize]
  | cons a as ih => simp [forestSize, ih]; omega

theorem size_eq (tree : Tree) : tree.size = forestSize tree.children + 1 := by
  cases tree
  rfl

theorem forestFringe_append (as bs : List Tree) :
    forestFringe (as ++ bs) = forestFringe as ++ forestFringe bs := by
  induction as with
  | nil => simp [forestFringe]
  | cons a as ih => simp [forestFringe, ih]

/-- A node in its own fringe: a node without children that covers at least one byte. -/
def leaf? (tree : Tree) : Option Tree :=
  if tree.children.isEmpty && tree.covers then some tree else none

theorem leaf?_isSome_iff {tree : Tree} :
    tree.leaf?.isSome ↔ tree.children = [] ∧ tree.covers := by
  simp [leaf?]

/-- A node is in its own fringe, or the fringe is that of its children. -/
theorem fringe_eq (tree : Tree) :
    tree.fringe = tree.leaf?.toList ++ forestFringe tree.children := by
  obtain ⟨type, start, stop, isNamed, field, _ | ⟨child, rest⟩⟩ := tree
  · by_cases wide : start < stop
    · simp [fringe, forestFringe, leaf?, children, covers, Tree.start, Tree.stop, wide]
    · simp [fringe, forestFringe, leaf?, children, covers, Tree.start, Tree.stop, wide]
  · simp [fringe, leaf?, children]

end Tree

end CommentDocs.Syntax
