import CommentDocs.Binding.Basic
import CommentDocs.Log.Message
import CommentDocs.Syntax.Construct

/-!
# The documentation of a module

Documentation of a module grows by steps: values are created, named, connected and
documented, and some are published under names of the module. What a module's documentation
comes to is the result of its steps, so a law about it can be shown one step at a time.
-/

namespace CommentDocs

open Binding Syntax

/-- The values documented from one source: those published under a name, and what the
module exports as a whole. -/
structure ModuleDocs where
  moduleId : Text
  store : Store Empty := { scopes := [{}] }
  published : Table ValueId := {}
  exports : Option ValueId := none
  deriving DecidableEq, Repr

/-- A function or an object literal that encloses a node, with the value it evaluates to. -/
structure Frame where
  here : Occurrence
  value : ValueId
  deriving DecidableEq, Repr

namespace ModuleDocs

/-- One thing done to the documentation of a module. -/
inductive Step where
  /-- A new value of a type. Functions and object literals are created where they stand. -/
  | create (type : Text) (here : Option Occurrence)
  /-- A name for a value that has none. -/
  | name (value : ValueId) (name : Text)
  /-- A name of the module, seen by all type texts from here on. -/
  | publish (name : Text) (value : ValueId)
  /-- A named parameter of a function. -/
  | addParameter (function : ValueId) (name : Text) (parameter : ValueId)
  /-- A property of a value. -/
  | setProperty (value : ValueId) (name : Text) (property : ValueId)
  /-- A value that a function may return, by a return statement or as its whole body. -/
  | appendReturn (function returned : ValueId) (statement : Option Occurrence)
  /-- The comment near a node documents the value that the node evaluated to. -/
  | document (here : Occurrence) (value : ValueId) (frame : Option Frame)
  /-- What the module exports as a whole. -/
  | setExports (value : ValueId)
  deriving DecidableEq, Repr

def mapStore (docs : ModuleDocs) (change : Store Empty → Store Empty) : ModuleDocs :=
  { docs with store := change docs.store }

def newValue (docs : ModuleDocs) (type : Text) : Value Empty :=
  { type, origin := .source docs.moduleId }

/-- The store after the comment near a node has been bound to its value. Values read from a
source have nothing left to compute. -/
def bound (site : Site) (here : Occurrence) (value : ValueId) (frame : Option Frame)
    (store : Store Empty) : Store Empty :=
  let binding : StateM (Store Empty) Unit :=
    Binding.document (δ := Empty) (fun _ => pure ()) site here.node value
      (frame.map fun frame => frame.here.node.kind)
  (binding.run store).2

def apply (site : Site) (docs : ModuleDocs) : Step → ModuleDocs
  | .create type _ => docs.mapStore (·.add (docs.newValue type))
  | .name value name => docs.mapStore (·.nameOnce value name)
  | .publish name value =>
    { docs.mapStore (·.setVariable site.scope name value) with
      published := docs.published.put name value }
  | .addParameter function name parameter =>
    docs.mapStore (·.addParameter function name parameter)
  | .setProperty value name property => docs.mapStore (·.setProperty value name property)
  | .appendReturn function returned _ => docs.mapStore (·.appendReturn function returned)
  | .document here value frame => docs.mapStore (bound site here value frame)
  | .setExports value => { docs with exports := some value }

def applyAll (site : Site) (docs : ModuleDocs) (steps : List Step) : ModuleDocs :=
  steps.foldl (apply site) docs

/-- The values that a reader of the module starts from. -/
def roots (docs : ModuleDocs) : List ValueId :=
  docs.published.entries.map (·.2) ++ docs.exports.toList

/-- What is logged about the module: the events of binding, and that it is documented. All
messages name the module. -/
def messages (docs : ModuleDocs) : List Log.Message :=
  (docs.store.events.filterMap Log.Message.ofEvent? ++
    [Log.Message.documented docs.published.entries.length]).map fun message =>
      message.withFields (.ofList [("module_id".toList, .text docs.moduleId)])

end ModuleDocs

end CommentDocs
