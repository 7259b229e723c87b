import CommentDocs.Syntax.Construct
import Mathlib.Tactic.SplitIfs

/-!
# Nodes by their places

A place leads to one node of a tree. Some nodes only list others: the program, the arguments of
a call and the parameters of a function, also a single one without parentheses. A list is not
visited itself, whatever its type; every other node has a form in which it is visited. Functions
and object literals by this form are the *literals* of a tree, and `enclosing?` is the innermost
literal around a place.

`VisitsBefore` is the order in which the children of a node are visited. It is their own order
but for two forms: the arguments of a call come before what is called, and the parameters of a
function before its body.

Two places that are neither above the other part somewhere: `Apart` says that they go through
different children of one node.
-/

namespace CommentDocs.Syntax

namespace Form

/-- Whether a child that fills a field of a node of this form is a list. -/
def isListField (form : Form) (field : Option Text) : Bool :=
  match form with
  | .call => field = some "arguments".toList
  | .function => field = some "parameter".toList || field = some "parameters".toList
  | _ => false

/-- The field of a node with lists that is visited after them. -/
def lastField? : Form → Option Text
  | .call => some "function".toList
  | .function => some "body".toList
  | _ => none

theorem isListField_lastField {form : Form} {field : Text} (last : form.lastField? = some field) :
    form.isListField (some field) = false := by
  cases form <;> cases last <;> decide

/-- Whether a node of this form is neither a literal nor has lists. -/
def isPlain (form : Form) : Bool :=
  form ≠ .function && form ≠ .object && form ≠ .call

theorem isListField_of_isPlain {form : Form} (plain : form.isPlain) (field : Option Text) :
    form.isListField field = false := by
  cases form <;> first | rfl | cases plain

theorem lastField?_of_isPlain {form : Form} (plain : form.isPlain) : form.lastField? = none := by
  cases form <;> first | rfl | cases plain

/-- The types of functions and object literals are those of the two forms. -/
theorem ofType_literal_iff (type : Text) :
    Form.ofType type = .function ∨ Form.ofType type = .object ↔
      functionTypes.contains type ∨ type = objectType := by
  unfold Form.ofType
  split_ifs <;> simp_all

end Form

namespace Tree

def nodeAt? (root : Tree) : Place → Option Tree
  | [] => some root
  | index :: above => (root.nodeAt? above).bind fun parent => parent.children[index]?

/-- The field that the node at a place fills in its parent. -/
def fieldAt? (root : Tree) (place : Place) : Option Text :=
  (root.nodeAt? place).bind field

/-- The form in which the node at a place is visited; a list is not visited. -/
def formAt? (root : Tree) : Place → Option Form
  | [] => none
  | index :: above =>
    if (root.formAt? above).any (·.isListField (root.fieldAt? (index :: above))) then none
    else (root.nodeAt? (index :: above)).map fun node => Form.ofType node.type

/-- Whether the node at a place is a function or an object literal. -/
def isLiteral (root : Tree) (place : Place) : Bool :=
  root.formAt? place = some .function || root.formAt? place = some .object

/-- A node is visited in the form of its type, or not at all. -/
theorem formAt?_eq {root : Tree} {place : Place} {node : Tree}
    (found : root.nodeAt? place = some node) :
    root.formAt? place = none ∨ root.formAt? place = some (Form.ofType node.type) := by
  cases place with
  | nil => exact .inl rfl
  | cons index above =>
    rw [formAt?]
    split
    · exact .inl rfl
    · exact .inr (by rw [found, Option.map_some])

theorem isLiteral_of_isPlain {root : Tree} {place : Place} {form : Form}
    (visited : root.formAt? place = some form) (plain : form.isPlain) :
    root.isLiteral place = false := by
  rw [isLiteral, visited]
  revert plain
  cases form <;> decide

/-- The innermost literal around a place. -/
def enclosing? (root : Tree) : Place → Option Place
  | [] => none
  | _ :: above => if root.isLiteral above then some above else root.enclosing? above

/-- Whether the node at a place has the type of a function or an object literal. -/
def hasLiteralType (root : Tree) (place : Place) : Bool :=
  (root.nodeAt? place).any fun node => functionTypes.contains node.type || node.type = objectType

/-- The innermost node around a place that has the type of a function or an object literal. -/
def nearest? (root : Tree) : Place → Option Place
  | [] => none
  | _ :: above => if root.hasLiteralType above then some above else root.nearest? above

theorem hasLiteralType_eq {root : Tree} {place : Place}
    (visited : root.hasLiteralType place → (root.formAt? place).isSome) :
    root.hasLiteralType place = root.isLiteral place := by
  cases found : root.nodeAt? place with
  | none =>
    have hidden : root.formAt? place = none := by
      cases place with
      | nil => rfl
      | cons index above =>
        rw [formAt?, found]
        split <;> rfl
    simp [hasLiteralType, isLiteral, found, hidden]
  | some node =>
    have literal : root.hasLiteralType place ↔
        Form.ofType node.type = .function ∨ Form.ofType node.type = .object := by
      rw [Form.ofType_literal_iff]
      simp [hasLiteralType, found]
    rcases formAt?_eq found with hidden | form
    · rw [hidden, Option.isSome_none] at visited
      simpa [isLiteral, hidden] using visited
    · rw [Bool.eq_iff_iff, literal]
      simp [isLiteral, form]

/-- By their types the literals of a tree are the same, if no list has the type of a literal. -/
theorem enclosing?_eq_nearest? {root : Tree}
    (visited : ∀ place, root.hasLiteralType place → (root.formAt? place).isSome) (place : Place) :
    root.enclosing? place = root.nearest? place := by
  induction place with
  | nil => rfl
  | cons index above ih => rw [enclosing?, nearest?, hasLiteralType_eq (visited above), ih]

theorem enclosing?_suffix {root : Tree} {place above : Place}
    (enclosing : root.enclosing? place = some above) : above <:+ place ∧ above ≠ place := by
  induction place with
  | nil => cases enclosing
  | cons index rest ih =>
    rw [enclosing?] at enclosing
    split at enclosing
    · cases enclosing
      exact ⟨List.suffix_cons index above, by simp⟩
    · obtain ⟨further, -⟩ := ih enclosing
      refine ⟨further.trans (List.suffix_cons index rest), ?_⟩
      rintro rfl
      exact absurd further.length_le (by simp)

/-- Of two children of the node at a place, one is visited before the other. -/
inductive VisitsBefore (root : Tree) (place : Place) (first second : Nat) : Prop
  /-- The lists of a node are visited before its last field. -/
  | list {form : Form} {field : Text} (visited : root.formAt? place = some form)
      (last : form.lastField? = some field)
      (list : form.isListField (root.fieldAt? (first :: place)) = true)
      (other : root.fieldAt? (second :: place) = some field)
  /-- The children of all other nodes are visited in their order. -/
  | order (plain : (root.formAt? place).bind Form.lastField? = none) (lt : first < second)

variable {root : Tree} {place : Place} {first second : Nat}

/-- Of two children at most one is visited before the other. -/
theorem VisitsBefore.asymm (before : root.VisitsBefore place first second) :
    ¬ root.VisitsBefore place second first := by
  intro after
  cases before with
  | list visited last list other =>
    cases after with
    | list also same again first =>
      rw [visited] at also
      cases also
      rw [other, Form.isListField_lastField last] at again
      cases again
    | order plain lt =>
      rw [visited, Option.bind_some, last] at plain
      cases plain
  | order plain lt =>
    cases after with
    | list visited last list other =>
      rw [visited, Option.bind_some, last] at plain
      cases plain
    | order plain after => exact absurd lt (Nat.lt_asymm after)

theorem VisitsBefore.ne (before : root.VisitsBefore place first second) : first ≠ second := by
  rintro rfl
  exact before.asymm before

end Tree

namespace Place

/-- One place goes through the child `first` of the node at `place`, another through `second`. -/
structure Parts (place : Place) (first second : Nat) (left right : Place) : Prop where
  left : first :: place <:+ left
  right : second :: place <:+ right

variable {place left right : Place} {first second : Nat}

/-- A place goes through one child of a node. -/
theorem eq_of_suffix (one : first :: place <:+ left) (other : second :: place <:+ left) :
    first = second := by
  have same := List.suffix_of_suffix_length_le one other (Nat.le_refl _)
  have equal := List.IsSuffix.eq_of_length same rfl
  exact (List.cons.inj equal).1

theorem Parts.symm (parts : Parts place first second left right) :
    Parts place second first right left :=
  ⟨parts.right, parts.left⟩

/-- Two places part at one node only. -/
theorem Parts.unique {there : Place} {other another : Nat}
    (parts : Parts place first second left right)
    (differ : first ≠ second) (also : Parts there other another left right) :
    other = another ∨ there = place ∧ other = first ∧ another = second := by
  rcases Nat.lt_trichotomy there.length place.length with above | level | below
  · -- the other node is above, so both places go through the same child of it
    have shared : other :: there <:+ place :=
      List.suffix_of_suffix_length_le also.left ((List.suffix_cons first place).trans parts.left)
        (Nat.succ_le_of_lt above)
    exact .inl (eq_of_suffix (shared.trans ((List.suffix_cons second place).trans parts.right))
      also.right)
  · have same : other :: there = first :: place :=
      List.IsSuffix.eq_of_length
        (List.suffix_of_suffix_length_le also.left parts.left (by simp [level])) (by simp [level])
    obtain ⟨rfl, rfl⟩ := List.cons.inj same
    exact .inr ⟨rfl, rfl, eq_of_suffix also.right parts.right⟩
  · have one : first :: place <:+ there :=
      List.suffix_of_suffix_length_le parts.left ((List.suffix_cons other there).trans also.left)
        (Nat.succ_le_of_lt below)
    have two : second :: place <:+ there :=
      List.suffix_of_suffix_length_le parts.right
        ((List.suffix_cons another there).trans also.right)
        (Nat.succ_le_of_lt below)
    exact absurd (eq_of_suffix one two) differ

/-- Of two places one is above the other, or they part. -/
theorem suffix_or_parts (left right : Place) : left <:+ right ∨ right <:+ left ∨
    ∃ place first second, first ≠ second ∧ Parts place first second left right := by
  induction left with
  | nil => exact .inl (List.nil_suffix)
  | cons index above ih =>
    rcases ih with ⟨rest, rfl⟩ | below | ⟨place, first, second, differ, parts⟩
    · -- the right place goes on below `above`, in the same branch or in another one
      rcases List.eq_nil_or_concat rest with rfl | ⟨deeper, next, rfl⟩
      · exact .inr (.inl (List.suffix_cons index above))
      · have further : next :: above <:+ deeper.concat next ++ above := ⟨deeper, by simp⟩
        by_cases same : index = next
        · exact .inl (same ▸ further)
        · exact .inr (.inr ⟨above, index, next, same, List.suffix_refl _, further⟩)
    · exact .inr (.inl (below.trans (List.suffix_cons index above)))
    · exact .inr (.inr ⟨place, first, second, differ,
        parts.left.trans (List.suffix_cons index above), parts.right⟩)

end Place

end CommentDocs.Syntax
