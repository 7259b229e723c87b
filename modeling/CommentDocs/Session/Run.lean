import CommentDocs.Binding.Basic
import CommentDocs.Session.Step
import CommentDocs.Text.Quoted

/-!
# Running a session

Each step answers with a result and may report events. A step that fails keeps what it
changed before it failed, and the session goes on with the next step. Evaluation may nest,
since the steps that complete a value may evaluate others; every completion runs at most
once, so the depth is bounded by the number of steps of the whole session.
-/

namespace CommentDocs.Session

abbrev Completion := List Step

/-- The state of a session: the graph, what the handles stand for, the handle that each
value was made under, and the tokens at hand. -/
structure State where
  store : Store Completion := {}
  handles : Table ValueId := {}
  makers : List (ValueId × Text) := []
  scopes : Table ScopeId := {}
  stream : Syntax.TokenStream := {}

/-- Why a step fails. -/
inductive Fault where
  | unknownKind (word : Text)
  | unknownTokenKind (word : Text)
  | unknownHandle (handle : Text)
  | endless
  deriving DecidableEq, Repr

def Fault.message : Fault → Text
  | .unknownKind word => Text.quoted word ++ " is not a valid NodeKind".toList
  | .unknownTokenKind word => Text.quoted word ++ " is not a valid TokenKind".toList
  | .unknownHandle handle => Text.quoted handle
  | .endless => "evaluation does not end".toList

inductive Result where
  | nothing
  | description (text : Text)
  | found (value : Option ValueId)
  | graph (root : ValueId)
  | text (text : Text)
  | tokens (tokens : List Syntax.Token)
  deriving DecidableEq, Repr

/-- Computations on a session; a failure keeps the state. -/
abbrev Run := ExceptT Fault (StateM State)

instance : MonadStateOf (Store Completion) Run where
  get := return (← getThe State).store
  set store := modifyThe State fun state => { state with store }
  modifyGet f := do
    let (result, store) := f (← getThe State).store
    modifyThe State fun state => { state with store }
    return result

namespace State

/-- The first handle that stands for a value; none does once all its handles were given to
other values. -/
def handleOf? (state : State) (id : ValueId) : Option Text :=
  (state.handles.entries.find? fun entry => entry.2 = id).map (·.1)

/-- The handle that a value was made under, whatever it stands for by now. -/
def makerOf? (state : State) (id : ValueId) : Option Text :=
  state.makers.lookup id

/-- Give a value a handle; one that stood for another value stands for this one from now
on. -/
def handle (state : State) (name : Text) (id : ValueId) : State :=
  { state with handles := state.handles.put name id }

def made (state : State) (name : Text) (id : ValueId) : State :=
  { state.handle name id with makers := state.makers ++ [(id, name)] }

end State

def valueOf (handle : Text) : Run ValueId := do
  match (← getThe State).handles.get? handle with
  | some id => return id
  | none => throw (.unknownHandle handle)

def scopeOf (handle : Text) : Run ScopeId := do
  match (← getThe State).scopes.get? handle with
  | some id => return id
  | none => throw (.unknownHandle handle)

def kindOf (word : Text) : Run Syntax.NodeKind := do
  match Syntax.NodeKind.ofName? word with
  | some kind => return kind
  | none => throw (.unknownKind word)

def tokenOf (request : TokenRequest) : Run Syntax.Token := do
  match Syntax.TokenKind.ofName? request.kind with
  | some kind => return ⟨kind, request.text, request.span⟩
  | none => throw (.unknownTokenKind request.kind)

def change (f : Store Completion → Store Completion) : Run Unit :=
  modifyThe (Store Completion) f

def add (value : Value Completion) : Run ValueId := do
  let id := (← getThe (Store Completion)).nextId
  change (·.add value)
  return id

def describe (value : Value Completion) : Text :=
  let name := (value.name.map Text.quoted).getD "None".toList
  "Value(name=".toList ++ name ++ ", type=".toList ++ Text.quoted value.type ++ ")".toList

/-- The fragment of a record, with another value for its type. -/
def fragmentOf (record : Record) (type : Option TypeSource) : Run Fragment := do
  match type with
  | none => return record.toFragment
  | some (.handle handle) => withType (← valueOf handle)
  | some (.fresh type name) => withType (← add { type, name })
where
  withType (id : ValueId) : Run Fragment :=
    return { record with fields := { record.fields with type := .value id } }.toFragment

def documentNode (evaluate : ValueId → Run Unit) (scope : Text) (request : NodeRequest)
    (context : Option NodeRequest) : Run Result := do
  let kind ← kindOf request.kind
  let value ← request.value.mapM valueOf
  let scope ← scopeOf scope
  let contextKind ← context.mapM fun context => do
    let kind ← kindOf context.kind
    let _ ← context.value.mapM valueOf
    return kind
  match value with
  | none => return .nothing
  | some id =>
    let site : Binding.Site := { stream := (← getThe State).stream, scope }
    let node : Syntax.Node := ⟨kind, request.span, request.bodySpan, request.keyName⟩
    Binding.document (δ := Completion) evaluate site node id contextKind
    return .graph id

/-- Perform one step; `evaluate` completes a value. -/
def perform (evaluate : ValueId → Run Unit) : Step → Run Result
  | .value handle type name origin module completion => do
    let value : Value Completion :=
      { type, name, origin, relatedModule := module, pending := completion }
    let id ← add value
    modifyThe State (·.made handle id)
    return .description (describe value)
  | .scope handle parent => do
    let parent ← parent.mapM scopeOf
    let id := (← getThe (Store Completion)).scopes.length
    change (·.addScope { parent })
    modifyThe State fun state => { state with scopes := state.scopes.put handle id }
    return .nothing
  | .setVariable scope name value => do
    let scope ← scopeOf scope
    let value ← valueOf value
    change (·.setVariable scope name value)
    return .nothing
  | .lookup scope name => do
    let scope ← scopeOf scope
    return .found ((← getThe (Store Completion)).lookup? scope name)
  | .reach scope path => do
    let scope ← scopeOf scope
    return .found ((← getThe (Store Completion)).reach? scope path)
  | .setProperty owner name value => do
    let owner ← valueOf owner
    let value ← valueOf value
    change (·.setProperty owner name value)
    return .graph owner
  | .addParameter owner name value => do
    let owner ← valueOf owner
    let value ← valueOf value
    change (·.addParameter owner name value)
    return .graph owner
  | .appendReturn owner value => do
    let owner ← valueOf owner
    let value ← valueOf value
    change (·.appendReturn owner value)
    return .graph owner
  | .getProperty owner name handle => do
    let owner ← valueOf owner
    let found := (← getThe (Store Completion)).property? owner name
    match found, handle with
    | some id, some handle => modifyThe State (·.handle handle id)
    | _, _ => pure ()
    return .found found
  | .evaluate value => do
    evaluate (← valueOf value)
    return .graph (← valueOf value)
  | .merge value record type => do
    let fragment ← fragmentOf record type
    let id ← valueOf value
    change (·.mergeInto id fragment)
    return .graph id
  | .resolve type scope => do
    let scope ← scopeOf scope
    match ← Binding.resolve (δ := Completion) evaluate scope type with
    | .text text => return .text text
    | .value id => return .found (some id)
    | .datum _ => return .nothing
  | .openStream text tokens => do
    let stream := Syntax.TokenStream.ofTokens text (← tokens.mapM tokenOf)
    modifyThe State fun state => { state with stream }
    return .tokens stream.tokens
  | .tokensInside span => return .tokens ((← getThe State).stream.inside span)
  | .tokensBefore span => return .tokens ((← getThe State).stream.before span)
  | .textOf span => return .text ((← getThe State).stream.textOf span)
  | .document scope node context => documentNode evaluate scope node context
  | .show value => return .graph (← valueOf value)

def performAll (evaluate : ValueId → Run Unit) : List Step → Run Unit
  | [] => return
  | step :: rest => do
    let _ ← perform evaluate step
    performAll evaluate rest

/-- Complete a value, if that is still to be done. The value counts as complete from the
start, so a completion that asks for its own value does not run twice. -/
def evaluate : (fuel : Nat) → ValueId → Run Unit
  | fuel, id => do
    match ((← getThe (Store Completion)).value? id).bind Value.pending with
    | none => return
    | some steps =>
      match fuel with
      | 0 => throw .endless
      | fuel + 1 =>
        change fun store =>
          (store.update id fun value => { value with pending := none }).report
            (.startedEvaluation id)
        performAll (evaluate fuel) steps

/-- What is known after a step: its outcome, the events that it reported, and the state. -/
structure Report where
  outcome : Except Fault Result
  events : List Event
  state : State

def report (fuel : Nat) (state : State) (step : Step) : Report :=
  let before := { state with store := { state.store with events := [] } }
  let (outcome, after) := ((perform (evaluate fuel) step).run before : Id _)
  ⟨outcome, after.store.events, after⟩

def reports (fuel : Nat) (state : State) : List Step → List Report
  | [] => []
  | step :: rest =>
    let done := report fuel state step
    done :: reports fuel done.state rest

def run (steps : List Step) : List Report :=
  reports (Step.countAll steps) {} steps

end CommentDocs.Session
