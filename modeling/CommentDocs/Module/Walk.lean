import CommentDocs.Module.Docs
import CommentDocs.Syntax.Lexis

/-!
# Walking a program

A walk visits the constructs of a program from the outside in and takes the steps that
document it. Two things are carried along: the nearest function or object literal around a
construct, which decides what kind of comment documents it, and the function that a return
statement returns from. Object literals end the second but not the first.

Names bound at the top level or in a function are published; members of objects are not.
-/

namespace CommentDocs

open Binding Syntax

/-- The documentation of a module while it is walked through, and the steps it came from. -/
structure Walk where
  docs : ModuleDocs
  history : List ModuleDocs.Step := []
  deriving DecidableEq, Repr

namespace Walk

open ModuleDocs (Step)

variable (site : Site)

def perform (step : Step) : StateM Walk Unit :=
  modify fun walk =>
    { docs := walk.docs.apply site step, history := walk.history ++ [step] }

/-- The documentation so far. -/
def current : StateM Walk ModuleDocs := return (← get).docs

def create (type : Text) (here : Option Occurrence) : StateM Walk ValueId := do
  let id := (← current).store.nextId
  perform site (.create type here)
  return id

/-- Publish a value under a name, which becomes its own if it has none. -/
def publish (name : Text) (value : ValueId) : StateM Walk Unit := do
  perform site (.name value name)
  perform site (.publish name value)

/-- Whether names bound in a frame are published. -/
def isOpen : Option Frame → Bool
  | none => true
  | some frame => frame.here.node.kind = .function

/-- Name a function; a declaration publishes it. -/
def nameFunction (frame : Option Frame) (isDeclaration : Bool) (value : ValueId) :
    Option Text → StateM Walk Unit
  | none => return
  | some name =>
    if isDeclaration && isOpen frame then publish site name value
    else perform site (.name value name)

def addParameters (frame : Frame) : List Parameter → StateM Walk Unit
  | [] => return
  | parameter :: rest => do
    let id ← create site ModelType.any none
    perform site (.addParameter frame.value parameter.name id)
    perform site (.document parameter.occurrence id (some frame))
    addParameters frame rest

/-- Bind a member of an object under its key; a member without a key is left out. -/
def addMember (object : ValueId) (key : Option Text) (value : ValueId) : StateM Walk Unit :=
  match key with
  | none | some [] => return
  | some key => perform site (.setProperty object key value)

def assign (value : ValueId) : Target → StateM Walk Unit
  | .other => return
  | .variable name => publish site name value
  | .member path => do
    let store := (← current).store
    match store.reach? site.scope path.dropLast with
    | none => return
    | some target =>
      let name := path.getLastD []
      perform site (.name value name)
      perform site (.setProperty target name value)

/-- The type of the value that a literal evaluates to, by the type of its node. -/
def literalTypes : Table Text :=
  .ofList [("array".toList, "array".toList), ("false".toList, "boolean".toList),
    ("null".toList, "null".toList), ("number".toList, "number".toList),
    ("string".toList, "string".toList), ("template_string".toList, "string".toList),
    ("true".toList, "boolean".toList), ("undefined".toList, ModelType.undefined)]

/-- The type of the value that a construct evaluates to, when all that is known of it is the
type of its node. -/
def literalType : Construct → Text
  | .other type _ => (literalTypes.get? type).getD ModelType.any
  | _ => ModelType.any

/-- The value that a construct names, if it is a name in scope. -/
def known? (store : Store Empty) : Construct → Option ValueId
  | .identifier name _ => store.lookup? site.scope name
  | _ => none

/-- The value of a construct: a known name stands for its value; otherwise the construct is
visited, and what is no function or object literal gets a value of its own. -/
def valueOf (construct : Construct) (visited : StateM Walk (Option ValueId)) :
    StateM Walk ValueId := do
  match known? site (← current).store construct with
  | some id => return id
  | none =>
    match ← visited with
    | some id => return id
    | none => create site (literalType construct) none

/-- The first value that a function returns. -/
def firstReturn? (store : Store Empty) (id : ValueId) : Option ValueId :=
  (store.value? id).bind fun value =>
    if value.type = ModelType.function then value.returns.head? else none

/-- The name of the call that defines a module. -/
def defineName : Text := "define".toList

/-- A call of `define` at the top level exports what its last argument, a function,
returns. -/
def exportFrom (frame : Option Frame) (callee : Text) (arguments : List (Option ValueId)) :
    StateM Walk Unit := do
  if frame.isNone && callee = defineName then
    let store := (← current).store
    match arguments.getLast?.join.bind (firstReturn? store) with
    | some value => perform site (.setExports value)
    | none => return

mutual

/-- Visit a construct; the answer is the value of a function or an object literal. -/
def visit (frame : Option Frame) (owner : Option ValueId) :
    Construct → StateM Walk (Option ValueId)
  | .function here isDeclaration name parameters body => do
    let id ← create site ModelType.function (some here)
    nameFunction site frame isDeclaration id name
    addParameters site ⟨here, id⟩ parameters
    visitBody ⟨here, id⟩ body
    perform site (.document here id frame)
    return some id
  | .object here members => do
    let id ← create site ModelType.object (some here)
    visitMembers ⟨here, id⟩ members
    perform site (.document here id frame)
    return some id
  | .returning here argument => do
    let id ← visitValue frame owner argument
    match owner with
    | some function => perform site (.appendReturn function id (some here))
    | none => pure ()
    perform site (.document here id frame)
    return none
  | .declarator name value => do
    let id ← visitValue frame owner value
    match name with
    | some name => if isOpen frame then publish site name id
    | none => pure ()
    return none
  | .assignment target value => do
    let id ← visitValue frame owner value
    if isOpen frame then assign site id target
    return none
  | .call callee inner arguments => do
    let values ← visitArguments frame owner arguments
    visitOptional frame owner inner
    exportFrom site frame callee values
    return none
  | .identifier _ parts => do
    visitAll frame owner parts
    return none
  | .other _ parts => do
    visitAll frame owner parts
    return none

def visitAll (frame : Option Frame) (owner : Option ValueId) :
    List Construct → StateM Walk Unit
  | [] => return
  | construct :: rest => do
    let _ ← visit frame owner construct
    visitAll frame owner rest

/-- Visit the arguments of a call; the answers are their values. -/
def visitArguments (frame : Option Frame) (owner : Option ValueId) :
    List Construct → StateM Walk (List (Option ValueId))
  | [] => return []
  | construct :: rest => do
    let value ← visit frame owner construct
    return value :: (← visitArguments frame owner rest)

def visitOptional (frame : Option Frame) (owner : Option ValueId) :
    Option Construct → StateM Walk Unit
  | none => return
  | some construct => do
    let _ ← visit frame owner construct

/-- Visit an expression; a missing one has the value `undefined`. -/
def visitValue (frame : Option Frame) (owner : Option ValueId) :
    Option Construct → StateM Walk ValueId
  | none => create site ModelType.undefined none
  | some construct => valueOf site construct (visit frame owner construct)

def visitBody (frame : Frame) : Body → StateM Walk Unit
  | .missing => return
  | .block statements => visitAll (some frame) (some frame.value) statements
  | .expression construct => do
    let id ← valueOf site construct (visit (some frame) (some frame.value) construct)
    perform site (.appendReturn frame.value id none)

def visitMembers (frame : Frame) : List Member → StateM Walk Unit
  | [] => return
  | member :: rest => do
    visitMember frame member
    visitMembers frame rest

def visitMember (frame : Frame) : Member → StateM Walk Unit
  | .pair here value => do
    let id ← visitValue (some frame) none value
    addMember site frame.value here.node.keyName id
    perform site (.document here id (some frame))
  | .method here function => do
    match ← visit (some frame) none function with
    | none => return
    | some id =>
      addMember site frame.value here.node.keyName id
      perform site (.document here id (some frame))
  | .shorthand name => do
    let id ← match (← current).store.lookup? site.scope name with
      | some id => pure id
      | none => create site ModelType.any none
    perform site (.setProperty frame.value name id)
  | .other construct => do
    let _ ← visit (some frame) none construct

end

/-- Walk through the source of a module. Types are resolved among the names of the module. -/
def ofSource (moduleId source : Text) (tree : Tree) : Walk :=
  let visits := visitAll ⟨streamOf source tree, 0⟩ none none (Construct.topLevel source tree)
  (visits.run { docs := { moduleId } }).2

end Walk

/-- The documentation of a module, by its source and the tree of that source. -/
def ModuleDocs.ofSource (moduleId source : Text) (tree : Tree) : ModuleDocs :=
  (Walk.ofSource moduleId source tree).docs

end CommentDocs
