import CommentDocs.Graph.Value

/-!
# The value graph and its scopes

A store holds all values of a run, the scopes that bind names to them, and the events
that were reported on the way. Values are only ever added and changed in place, so an
identity stays valid. A scope may have a parent, which was made before it; a look-up goes
from a scope to its parents.
-/

namespace CommentDocs

abbrev ScopeId := Nat

/-- Names bound to values, and the scope in which to look further. -/
structure Scope where
  parent : Option ScopeId := none
  bindings : Table ValueId := {}
  deriving DecidableEq, Repr

/-- What is reported while documentation is bound to values. -/
inductive Event where
  /-- A type text names nothing that could be linked. -/
  | unresolvedType (type : Text)
  /-- A documented property that no code mentions was added to the graph. -/
  | fabricatedProperty (name : Text) (onPrototype : Bool)
  /-- A documented return that no code has was added to the graph. -/
  | createdReturn (type : Option Text)
  /-- The computation pending on a value was started. -/
  | startedEvaluation (value : ValueId)
  deriving DecidableEq, Repr

/-- All values, scopes and reported events of a run. -/
structure Store (δ : Type) where
  values : List (Value δ) := []
  scopes : List Scope := []
  events : List Event := []
  deriving DecidableEq, Repr

namespace Store

variable {δ : Type}

def value? (store : Store δ) (id : ValueId) : Option (Value δ) :=
  store.values[id]?

/-- The identity that the next new value gets. -/
def nextId (store : Store δ) : ValueId :=
  store.values.length

/-- Add a value; its identity is `nextId`. -/
def add (store : Store δ) (value : Value δ) : Store δ :=
  { store with values := store.values ++ [value] }

def update (store : Store δ) (id : ValueId) (change : Value δ → Value δ) : Store δ :=
  { store with values := store.values.modify id change }

def report (store : Store δ) (event : Event) : Store δ :=
  { store with events := store.events ++ [event] }

/-- Give a value a name, unless it has one. -/
def nameOnce (store : Store δ) (id : ValueId) (name : Text) : Store δ :=
  store.update id fun value => { value with name := value.name.or (some name) }

def setProperty (store : Store δ) (id : ValueId) (name : Text) (target : ValueId) : Store δ :=
  store.update id fun value => { value with properties := value.properties.put name target }

def addParameter (store : Store δ) (id : ValueId) (name : Text) (target : ValueId) : Store δ :=
  store.update id fun value => { value with parameters := value.parameters.put name target }

def appendReturn (store : Store δ) (id : ValueId) (target : ValueId) : Store δ :=
  store.update id fun value => { value with returns := value.returns ++ [target] }

def property? (store : Store δ) (id : ValueId) (name : Text) : Option ValueId :=
  (store.value? id).bind fun value => value.properties.get? name

/-- Add a scope; its identity is the number of scopes before it. -/
def addScope (store : Store δ) (scope : Scope) : Store δ :=
  { store with scopes := store.scopes ++ [scope] }

def setVariable (store : Store δ) (scope : ScopeId) (name : Text) (target : ValueId) :
    Store δ :=
  { store with
    scopes := store.scopes.modify scope fun scope =>
      { scope with bindings := scope.bindings.put name target } }

/-- The value that a name has in a scope or in the nearest parent that binds it. -/
def lookup? (store : Store δ) (scope : ScopeId) (name : Text) : Option ValueId :=
  match store.scopes[scope]? with
  | none => none
  | some found =>
    match found.bindings.get? name with
    | some target => some target
    | none =>
      match found.parent with
      | some parent => if parent < scope then store.lookup? parent name else none
      | none => none
termination_by scope

/-- The value reached from `id` along a path of properties. -/
def follow? (store : Store δ) (id : Option ValueId) (path : List Text) : Option ValueId :=
  path.foldl (fun found name => found.bind fun value => store.property? value name) id

/-- The value that a dotted path names in a scope: its head is looked up, the rest follows
properties. -/
def reach? (store : Store δ) (scope : ScopeId) : List Text → Option ValueId
  | [] => none
  | head :: path => if head = [] then none else store.follow? (store.lookup? scope head) path

end Store

end CommentDocs
