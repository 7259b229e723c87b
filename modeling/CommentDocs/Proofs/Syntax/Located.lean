import CommentDocs.Proofs.Syntax.Places
import Mathlib.Tactic.SplitIfs

/-!
# Constructs by located nodes

A construct is read from a tree by recursion on its children, counting places on the way. Here
the same reading is said by located nodes: `construct_eq` names, for each form of a node, the
located nodes from which the parts of its construct are read. What is shown of a construct is
then shown along these nodes.
-/

namespace CommentDocs.Syntax

/-- The kind of a node by its form. -/
theorem kindOfType_eq (type : Text) : kindOfType type =
    match Form.ofType type with
    | .function => .function
    | .object => .object
    | .returning => .returning
    | .identifier => .identifier
    | _ => if type = pairType then .property else .other := by
  by_cases known : type ∈ [identifierType, objectType, returnType, pairType]
  · revert type
    decide
  · simp only [List.mem_cons, List.not_mem_nil, or_false, not_or] at known
    obtain ⟨identifier, object, returning, pair⟩ := known
    unfold kindOfType Form.ofType
    simp only [identifier, object, returning, pair, if_false]
    split_ifs <;> rfl

namespace Located

variable (source : Text)

def construct (located : Located) : Construct :=
  .ofTree source located.place located.tree

def body (located : Located) : Body :=
  match located.child? "body".toList with
  | none => .missing
  | some body =>
    if body.tree.type = blockType then .block (body.parts.map (construct source))
    else .expression (body.construct source)

def fieldValue (field : Text) (located : Located) : Option Construct :=
  (located.child? field).map (construct source)

def callee (located : Located) : Option Construct :=
  ((located.child? "function".toList).filter fun callee => !callee.isIdentifier).map
    (construct source)

def arguments (located : Located) : List Construct :=
  match located.child? "arguments".toList with
  | none => []
  | some list => list.parts.map (construct source)

def parameter (located : Located) : Parameter :=
  ⟨located.occurrence source, located.tree.text source⟩

def member (located : Located) : Member :=
  if located.tree.type = pairType then
    .pair (located.occurrence source) (located.fieldValue source "value".toList)
  else if located.tree.type = methodType then
    .method ⟨located.place, { located.tree.toNode source with kind := .property }⟩
      (located.construct source)
  else if located.tree.type = shorthandType then .shorthand (located.tree.text source)
  else .other (located.construct source)

/-- Trees next to each other below a place, the first one at `index`. -/
def row (place : Place) (index : Nat) (trees : List Tree) : List Located :=
  (trees.zipIdx index).map fun (tree, index) => ⟨index :: place, tree⟩

@[simp] theorem row_cons (place : Place) (index : Nat) (tree : Tree) (rest : List Tree) :
    row place index (tree :: rest) = ⟨index :: place, tree⟩ :: row place (index + 1) rest := rfl

/-- The first of some nodes that fills a field. -/
def filling (field : Text) (nodes : List Located) : Option Located :=
  nodes.find? fun node => node.tree.field = some field

variable {source} {place : Place} {index : Nat} {trees : List Tree}

theorem filling_of_field {field : Text} {node : Located} {rest : List Located}
    (filled : node.tree.field = some field) : filling field (node :: rest) = some node :=
  List.find?_cons_of_pos (decide_eq_true filled)

theorem filling_of_ne {field : Text} {node : Located} {rest : List Located}
    (other : node.tree.field ≠ some field) : filling field (node :: rest) = filling field rest :=
  List.find?_cons_of_neg (by simpa using other)

theorem partsIn_eq : Construct.partsIn source place index trees =
    ((row place index trees).filter fun child => child.tree.isPart).map (construct source) := by
  induction trees generalizing index with
  | nil => rfl
  | cons tree rest ih =>
    rw [Construct.partsIn, row_cons, List.filter_cons, ih]
    split <;> rfl

theorem partsOf_eq (located : Located) :
    Construct.partsOf source located.place located.tree =
      located.parts.map (construct source) := by
  obtain ⟨place, type, start, stop, isNamed, field, children⟩ := located
  exact partsIn_eq

theorem firstPartIn_eq : Construct.firstPartIn source place index trees =
    ((row place index trees).filter fun child => child.tree.isPart).head?.map
      (construct source) := by
  induction trees generalizing index with
  | nil => rfl
  | cons tree rest ih =>
    rw [Construct.firstPartIn, row_cons, List.filter_cons]
    split
    · rfl
    · exact ih

theorem fieldIn_eq (field : Text) : Construct.fieldIn field source place index trees =
    (filling field (row place index trees)).map (construct source) := by
  induction trees generalizing index with
  | nil => rfl
  | cons tree rest ih =>
    rw [Construct.fieldIn, row_cons]
    split
    · rename_i filled
      rw [filling_of_field filled]
      rfl
    · rename_i other
      rw [filling_of_ne other, ih]

theorem fieldOf_eq (field : Text) (located : Located) :
    Construct.fieldOf field source located.place located.tree =
      located.fieldValue source field := by
  obtain ⟨place, type, start, stop, isNamed, own, children⟩ := located
  exact fieldIn_eq field

theorem calleeIn_eq : Construct.calleeIn source place index trees =
    ((filling "function".toList (row place index trees)).filter
      fun callee => !callee.isIdentifier).map (construct source) := by
  induction trees generalizing index with
  | nil => rfl
  | cons tree rest ih =>
    rw [Construct.calleeIn, row_cons]
    split
    · rename_i filled
      rw [filling_of_field filled]
      split
      · rename_i named
        rw [Option.filter_some_neg (by simpa [isIdentifier] using named)]
        rfl
      · rename_i other
        rw [Option.filter_some_pos (by simpa [isIdentifier] using other)]
        rfl
    · rename_i other
      rw [filling_of_ne other, ih]

theorem argumentsIn_eq : Construct.argumentsIn source place index trees =
    match filling "arguments".toList (row place index trees) with
    | none => []
    | some list => list.parts.map (construct source) := by
  induction trees generalizing index with
  | nil => rfl
  | cons tree rest ih =>
    rw [Construct.argumentsIn, row_cons]
    split
    · rename_i filled
      rw [filling_of_field filled]
      exact partsOf_eq ⟨index :: place, tree⟩
    · rename_i other
      rw [filling_of_ne other, ih]

theorem bodyIn_eq : Construct.bodyIn source place index trees =
    match filling "body".toList (row place index trees) with
    | none => .missing
    | some body =>
      if body.tree.type = blockType then .block (body.parts.map (construct source))
      else .expression (body.construct source) := by
  induction trees generalizing index with
  | nil => rfl
  | cons tree rest ih =>
    rw [Construct.bodyIn, row_cons]
    split
    · rename_i filled
      rw [filling_of_field filled, partsOf_eq ⟨index :: place, tree⟩]
      rfl
    · rename_i other
      rw [filling_of_ne other, ih]

theorem membersIn_eq : Construct.membersIn source place index trees =
    ((row place index trees).filter fun child => child.tree.isPart).map (member source) := by
  induction trees generalizing index with
  | nil => rfl
  | cons tree rest ih =>
    rw [Construct.membersIn, row_cons, List.filter_cons, ih,
      fieldOf_eq "value".toList ⟨index :: place, tree⟩]
    cases part : tree.isPart with
    | false => rfl
    | true =>
      simp only [Bool.not_true, Bool.false_eq_true, if_false, if_true, List.map_cons, member]
      split_ifs <;> rfl

/-- The construct of a located node, form by form. -/
theorem construct_eq (located : Located) : located.construct source =
    match Form.ofType located.tree.type with
    | .function =>
      .function (located.occurrence source) (declarationTypes.contains located.tree.type)
        (located.tree.fieldText? source "name".toList) (located.parameters source)
        (located.body source)
    | .object => .object (located.occurrence source) (located.parts.map (member source))
    | .returning =>
      .returning (located.occurrence source) (located.parts.head?.map (construct source))
    | .declarator =>
      .declarator (located.tree.boundName? source) (located.fieldValue source "value".toList)
    | .assignment =>
      .assignment (located.tree.target source) (located.fieldValue source "right".toList)
    | .call =>
      .call ((located.tree.fieldText? source "function".toList).getD []) (located.callee source)
        (located.arguments source)
    | .identifier =>
      .identifier (located.tree.text source) (located.parts.map (construct source))
    | .other => .other located.tree.type (located.parts.map (construct source)) := by
  obtain ⟨place, type, start, stop, isNamed, field, children⟩ := located
  simp only [construct, Construct.ofTree, bodyIn_eq, membersIn_eq, firstPartIn_eq, fieldIn_eq,
    calleeIn_eq, argumentsIn_eq, partsIn_eq]
  rfl

/-- The node is the one at its place in a tree. -/
def At (root : Tree) (located : Located) : Prop :=
  root.nodeAt? located.place = some located.tree

/-- Nodes below a place, each in a later branch than those before it. -/
structure InRow (place : Place) (nodes : List Located) : Prop where
  below : ∀ node ∈ nodes, ∃ index, index :: place <:+ node.place
  sorted : nodes.Pairwise fun left right => ∀ first second,
    first :: place <:+ left.place → second :: place <:+ right.place → first < second

theorem mem_row {node : Located} (mem : node ∈ row place index trees) :
    ∃ offset, node.place = (index + offset) :: place ∧ trees[offset]? = some node.tree := by
  induction trees generalizing index with
  | nil => cases mem
  | cons tree rest ih =>
    rcases List.mem_cons.mp mem with rfl | later
    · exact ⟨0, rfl, rfl⟩
    · obtain ⟨offset, placed, found⟩ := ih later
      exact ⟨offset + 1, by rw [placed, Nat.add_assoc, Nat.add_comm 1], found⟩

theorem inRow_row : InRow place (row place index trees) where
  below node mem := by
    obtain ⟨offset, placed, _⟩ := mem_row mem
    exact ⟨index + offset, placed ▸ List.suffix_refl _⟩
  sorted := by
    induction trees generalizing index with
    | nil => exact .nil
    | cons tree rest ih =>
      refine .cons (fun node later first second left right => ?_) ih
      obtain ⟨offset, placed, _⟩ := mem_row later
      have here : first = index := Place.eq_of_suffix left (List.suffix_refl _)
      have there : second = index + 1 + offset :=
        Place.eq_of_suffix right (placed ▸ List.suffix_refl node.place)
      omega

theorem InRow.filter {nodes : List Located} (inRow : InRow place nodes) (p : Located → Bool) :
    InRow place (nodes.filter p) where
  below node mem := inRow.below node (List.mem_filter.mp mem).1
  sorted := inRow.sorted.filter p

theorem InRow.tail {node : Located} {nodes : List Located} (inRow : InRow place (node :: nodes)) :
    InRow place nodes where
  below other mem := inRow.below other (List.mem_cons_of_mem _ mem)
  sorted := inRow.sorted.of_cons

theorem InRow.filterMap {nodes : List Located} (inRow : InRow place nodes)
    {f : Located → Option Located} (deeper : ∀ node below, f node = some below →
      node.place <:+ below.place) : InRow place (nodes.filterMap f) where
  below node mem := by
    obtain ⟨above, inside, found⟩ := List.mem_filterMap.mp mem
    obtain ⟨index, further⟩ := inRow.below above inside
    exact ⟨index, further.trans (deeper above node found)⟩
  sorted := by
    refine List.pairwise_filterMap.mpr (inRow.sorted.imp_of_mem ?_)
    intro left right one two before lower found further also first second here there
    obtain ⟨index, above⟩ := inRow.below left one
    obtain ⟨next, beyond⟩ := inRow.below right two
    rw [Place.eq_of_suffix here (above.trans (deeper left lower found)),
      Place.eq_of_suffix there (beyond.trans (deeper right further also))]
    exact before index next above beyond

theorem inRow_parts (located : Located) : InRow located.place located.parts :=
  inRow_row.filter _

section

variable {root : Tree} {located child : Located}

theorem mem_children (mem : child ∈ located.children) :
    ∃ index, child.place = index :: located.place ∧
      located.tree.children[index]? = some child.tree := by
  obtain ⟨index, placed, found⟩ := mem_row mem
  exact ⟨index, by rw [placed, Nat.zero_add], found⟩

theorem mem_children_of_child? {field : Text} (found : located.child? field = some child) :
    child ∈ located.children ∧ child.tree.field = some field :=
  ⟨List.mem_of_find?_eq_some found, by simpa using List.find?_some found⟩

theorem mem_children_of_mem_parts (mem : child ∈ located.parts) : child ∈ located.children :=
  (List.mem_filter.mp mem).1

theorem sizeOf_lt_of_mem_children (mem : child ∈ located.children) :
    sizeOf child.tree < sizeOf located.tree := by
  obtain ⟨index, -, found⟩ := mem_children mem
  have smaller := List.sizeOf_lt_of_mem (List.mem_of_getElem? found)
  obtain ⟨place, type, start, stop, isNamed, field, children⟩ := located
  refine Nat.lt_trans smaller ?_
  simp only [Tree.children, Tree.node.sizeOf_spec]
  omega

/-- The children of a node of a tree are nodes of the tree. -/
theorem At.of_mem_children (here : located.At root) (mem : child ∈ located.children) :
    child.At root := by
  obtain ⟨index, placed, found⟩ := mem_children mem
  rw [At, placed, Tree.nodeAt?, here, Option.bind_some, found]

/-- The branch to a child has the field of the child. -/
theorem At.exists_branch (here : located.At root) (mem : child ∈ located.children) :
    ∃ index, child.place = index :: located.place ∧
      root.fieldAt? (index :: located.place) = child.tree.field := by
  have there := here.of_mem_children mem
  obtain ⟨index, placed, -⟩ := mem_children mem
  refine ⟨index, placed, ?_⟩
  rw [Tree.fieldAt?, ← placed, there, Option.bind_some]

/-- A child that is a list has no form. -/
theorem At.formAt?_of_list (here : located.At root) (mem : child ∈ located.children)
    (list : (root.formAt? located.place).any (·.isListField child.tree.field) = true) :
    root.formAt? child.place = none := by
  obtain ⟨index, placed, field⟩ := here.exists_branch mem
  rw [placed, Tree.formAt?, field, if_pos list]

/-- A node binds itself or, as a pattern, a node below it; either is an identifier. -/
theorem bound?_eq_some {binder : Located} (found : located.bound? = some binder) :
    binder.tree.type = identifierType ∧ (binder = located ∨ binder ∈ located.children ∧
      Form.ofType located.tree.type = .other) := by
  obtain ⟨chosen, identifier⟩ := Option.filter_eq_some_iff.mp found
  refine ⟨of_decide_eq_true identifier, ?_⟩
  split at chosen
  · rename_i pattern
    exact .inr ⟨(mem_children_of_child? chosen).1, by rw [pattern]; decide⟩
  · split at chosen
    · rename_i pattern
      exact .inr ⟨mem_children_of_mem_parts (List.mem_of_find?_eq_some chosen),
        by rw [pattern]; decide⟩
    · exact .inl (Option.some.inj chosen).symm

theorem suffix_of_bound? {binder : Located} (found : located.bound? = some binder) :
    located.place <:+ binder.place := by
  rcases (bound?_eq_some found).2 with rfl | ⟨mem, _⟩
  · exact List.suffix_refl _
  · obtain ⟨index, placed, -⟩ := mem_children mem
    exact placed ▸ List.suffix_cons index located.place

/-- A node of a tree that is visited in the form of its type. -/
structure Visitable (root : Tree) (located : Located) : Prop where
  there : located.At root
  form : root.formAt? located.place = some (Form.ofType located.tree.type)

/-- A child is visited unless it is a list. -/
theorem At.visitable_of_mem_children (here : located.At root) (mem : child ∈ located.children)
    (plain : (root.formAt? located.place).any (·.isListField child.tree.field) = false) :
    child.Visitable root where
  there := here.of_mem_children mem
  form := by
    have there := here.of_mem_children mem
    obtain ⟨index, placed, field⟩ := here.exists_branch mem
    rw [At, placed] at there
    rw [placed, Tree.formAt?, field, plain, there]
    rfl

theorem enclosing?_of_mem_children (mem : child ∈ located.children) :
    root.enclosing? child.place =
      if root.isLiteral located.place then some located.place
      else root.enclosing? located.place := by
  obtain ⟨index, placed, -⟩ := mem_children mem
  rw [placed, Tree.enclosing?]

end

end Located

end CommentDocs.Syntax
