import CommentDocs.Syntax.Node

/-!
# Constructs of a program

A syntax tree has many types of nodes, few of which matter here. A construct is a tree
read by what it means: functions with their parameters and bodies, object literals with
their members, return statements, bindings and calls. Everything else is known only by its
type and its parts. A construct remembers the nodes it was read from, each by its place:
the positions on the way up to the root.
-/

namespace CommentDocs.Syntax

/-- The positions of a node and its ancestors among their siblings, the node's own first. -/
abbrev Place := List Nat

/-- A node at its place in a tree. -/
structure Occurrence where
  place : Place
  node : Node
  deriving DecidableEq, Repr

structure Parameter where
  occurrence : Occurrence
  name : Text
  deriving DecidableEq, Repr

/-- What an assignment gives a value to. -/
inductive Target where
  | variable (name : Text)
  | member (path : List Text)
  | other
  deriving DecidableEq, Repr

mutual

/-- A tree read by what it means. -/
inductive Construct where
  | function (here : Occurrence) (isDeclaration : Bool) (name : Option Text)
      (parameters : List Parameter) (body : Body)
  | object (here : Occurrence) (members : List Member)
  | returning (here : Occurrence) (argument : Option Construct)
  | declarator (name : Option Text) (value : Option Construct)
  | assignment (target : Target) (value : Option Construct)
  | call (callee : Text) (inner : Option Construct) (arguments : List Construct)
  | identifier (name : Text) (parts : List Construct)
  | other (type : Text) (parts : List Construct)

/-- The body of a function: statements in braces, or the value of an expression. -/
inductive Body where
  | block (statements : List Construct)
  | expression (value : Construct)
  | missing

inductive Member where
  | pair (here : Occurrence) (value : Option Construct)
  | method (here : Occurrence) (function : Construct)
  | shorthand (name : Text)
  | other (construct : Construct)

end

/-- A tree at its place in a larger one. -/
structure Located where
  place : Place
  tree : Tree

namespace Located

def children (located : Located) : List Located :=
  located.tree.children.zipIdx.map fun (child, index) => ⟨index :: located.place, child⟩

def parts (located : Located) : List Located :=
  located.children.filter fun child => child.tree.isPart

def child? (field : Text) (located : Located) : Option Located :=
  located.children.find? fun child => child.tree.field = some field

def occurrence (source : Text) (located : Located) : Occurrence :=
  ⟨located.place, located.tree.toNode source⟩

def isIdentifier (located : Located) : Bool :=
  located.tree.type = identifierType

/-- The identifier that a parameter binds: itself, the left side of a default, or the
identifier of a rest parameter. -/
def bound? (located : Located) : Option Located :=
  let binder :=
    if located.tree.type = "assignment_pattern".toList then located.child? "left".toList
    else if located.tree.type = "rest_pattern".toList then located.parts.find? isIdentifier
    else some located
  binder.filter isIdentifier

/-- The nodes that name the parameters of a function. A function without parentheses has
one parameter, whatever its node is. -/
def parameterNodes (located : Located) : List Located :=
  match located.child? "parameter".toList with
  | some single => [single]
  | none =>
    match located.child? "parameters".toList with
    | some list => list.parts.filterMap bound?
    | none => []

def parameters (source : Text) (located : Located) : List Parameter :=
  located.parameterNodes.map fun node => ⟨node.occurrence source, node.tree.text source⟩

end Located

namespace Tree

def fieldText? (source : Text) (field : Text) (tree : Tree) : Option Text :=
  (tree.child? field).map (text source)

/-- What the left side of an assignment stands for. -/
def target (source : Text) (tree : Tree) : Target :=
  match tree.child? "left".toList with
  | none => .other
  | some left =>
    if left.type = identifierType then .variable (left.text source)
    else if left.type = "member_expression".toList then
      .member (Text.splitOn '.' (left.text source))
    else .other

/-- The name of a declarator that binds a plain name. -/
def boundName? (source : Text) (tree : Tree) : Option Text :=
  ((tree.child? "name".toList).filter fun name => name.type = identifierType).map (text source)

end Tree

/-- The types of nodes that are read as constructs of their own. -/
inductive Form where
  | function
  | object
  | returning
  | declarator
  | assignment
  | call
  | identifier
  | other
  deriving DecidableEq, Repr

def Form.ofType (type : Text) : Form :=
  if functionTypes.contains type then .function
  else if type = objectType then .object
  else if type = returnType then .returning
  else if type = "variable_declarator".toList then .declarator
  else if type = "assignment_expression".toList then .assignment
  else if type = "call_expression".toList then .call
  else if type = identifierType then .identifier
  else .other

/-- The type of a member that names a variable in scope. -/
def shorthandType : Text := "shorthand_property_identifier".toList

namespace Construct

mutual

def ofTree (source : Text) (place : Place) : Tree → Construct
  | .node type start stop isNamed field children =>
    let tree := Tree.node type start stop isNamed field children
    let occurrence : Occurrence := ⟨place, tree.toNode source⟩
    match Form.ofType type with
    | .function =>
      .function occurrence (declarationTypes.contains type) (tree.fieldText? source "name".toList)
        (Located.parameters source ⟨place, tree⟩) (bodyIn source place 0 children)
    | .object => .object occurrence (membersIn source place 0 children)
    | .returning => .returning occurrence (firstPartIn source place 0 children)
    | .declarator =>
      .declarator (tree.boundName? source) (fieldIn "value".toList source place 0 children)
    | .assignment =>
      .assignment (tree.target source) (fieldIn "right".toList source place 0 children)
    | .call =>
      .call ((tree.fieldText? source "function".toList).getD [])
        (calleeIn source place 0 children) (argumentsIn source place 0 children)
    | .identifier => .identifier (tree.text source) (partsIn source place 0 children)
    | .other => .other type (partsIn source place 0 children)

def partsOf (source : Text) (place : Place) : Tree → List Construct
  | .node _ _ _ _ _ children => partsIn source place 0 children

/-- The constructs of the parts among the children from `index` on. -/
def partsIn (source : Text) (place : Place) (index : Nat) : List Tree → List Construct
  | [] => []
  | child :: rest =>
    if child.isPart then
      ofTree source (index :: place) child :: partsIn source place (index + 1) rest
    else partsIn source place (index + 1) rest

def firstPartIn (source : Text) (place : Place) (index : Nat) : List Tree → Option Construct
  | [] => none
  | child :: rest =>
    if child.isPart then some (ofTree source (index :: place) child)
    else firstPartIn source place (index + 1) rest

def fieldIn (field source : Text) (place : Place) (index : Nat) : List Tree → Option Construct
  | [] => none
  | child :: rest =>
    if child.field = some field then some (ofTree source (index :: place) child)
    else fieldIn field source place (index + 1) rest

/-- The construct of what is called, unless it is a plain name. -/
def calleeIn (source : Text) (place : Place) (index : Nat) : List Tree → Option Construct
  | [] => none
  | child :: rest =>
    if child.field = some "function".toList then
      if child.type = identifierType then none
      else some (ofTree source (index :: place) child)
    else calleeIn source place (index + 1) rest

def argumentsIn (source : Text) (place : Place) (index : Nat) : List Tree → List Construct
  | [] => []
  | child :: rest =>
    if child.field = some "arguments".toList then partsOf source (index :: place) child
    else argumentsIn source place (index + 1) rest

def bodyIn (source : Text) (place : Place) (index : Nat) : List Tree → Body
  | [] => .missing
  | child :: rest =>
    if child.field = some "body".toList then
      if child.type = blockType then .block (partsOf source (index :: place) child)
      else .expression (ofTree source (index :: place) child)
    else bodyIn source place (index + 1) rest

def fieldOf (field source : Text) (place : Place) : Tree → Option Construct
  | .node _ _ _ _ _ children => fieldIn field source place 0 children

def membersIn (source : Text) (place : Place) (index : Nat) : List Tree → List Member
  | [] => []
  | child :: rest =>
    let here := index :: place
    let others := membersIn source place (index + 1) rest
    if !child.isPart then others
    else if child.type = pairType then
      .pair ⟨here, child.toNode source⟩ (fieldOf "value".toList source here child) :: others
    else if child.type = methodType then
      .method ⟨here, { child.toNode source with kind := .property }⟩
        (ofTree source here child) :: others
    else if child.type = shorthandType then .shorthand (child.text source) :: others
    else .other (ofTree source here child) :: others

end

def topLevel (source : Text) (tree : Tree) : List Construct :=
  partsOf source [] tree

end Construct

end CommentDocs.Syntax
