import CommentDocs.Proofs.Binding.Confinement
import CommentDocs.Session.Run

/-!
# Documenting a node in a session

A session keeps more than a graph, and its computations may fail. A call that documents a node
neither touches the rest nor fails, once its names stand for something: as long as no value has
a computation pending, it acts on the graph alone, and there as documentation without any
evaluation does. So what documentation is confined to carries over.
-/

namespace CommentDocs

open Binding Syntax

namespace Store

variable {δ : Type}

/-- No value has a pending computation. -/
def IsEvaluated (store : Store δ) : Prop :=
  ∀ id value, store.value? id = some value → value.pending = none

theorem IsEvaluated.update {store : Store δ} (evaluated : store.IsEvaluated) (id : ValueId)
    {change : Value δ → Value δ} (same : ∀ value, (change value).pending = value.pending) :
    (store.update id change).IsEvaluated := by
  intro other value found
  obtain ⟨old, present, rfl⟩ := store.eq_of_value?_update found
  split
  · exact (same old).trans (evaluated other old present)
  · exact evaluated other old present

end Store

namespace Binding

variable {δ : Type} {site : Site} {node : Node} {owner base : ValueId} {store after : Store δ}

theorem Change.isEvaluated (change : Change site node owner base store after)
    (evaluated : store.IsEvaluated) : after.IsEvaluated := by
  cases change with
  | report event => exact evaluated
  | merge id offered => exact evaluated.update id fun _ => rfl
  | add commented type =>
    intro id value found
    rw [Store.value?_add] at found
    split at found
    · cases found
      rfl
    · exact evaluated id value found
  | bind commented placed new added => exact evaluated.update _ fun _ => rfl
  | append commented documented first new found typed => exact evaluated.update _ fun _ => rfl

theorem Changes.isEvaluated (changes : Changes site node owner base store after)
    (evaluated : store.IsEvaluated) : after.IsEvaluated := by
  induction changes with
  | refl => exact evaluated
  | tail _ change ih => exact change.isEvaluated ih

end Binding

namespace Session

/-- A computation of a session succeeds and does to the graph what `plain` does, and nothing
else. -/
def ActsAs {α : Type} (state : State) (action : Run α) (plain : StateM (Store Completion) α) :
    Prop :=
  action.run.run state =
    (.ok (plain.run state.store).1, { state with store := (plain.run state.store).2 })

section

variable {α β : Type} {state : State}

theorem ActsAs.pure (a : α) : ActsAs state (Pure.pure a) (Pure.pure a) := rfl

theorem ActsAs.bind {first : Run α} {plain : StateM (Store Completion) α} {next : α → Run β}
    {rest : α → StateM (Store Completion) β} (head : ActsAs state first plain)
    (tail : ActsAs { state with store := (plain.run state.store).2 }
      (next (plain.run state.store).1) (rest (plain.run state.store).1)) :
    ActsAs state (first >>= next) (plain >>= rest) := by
  unfold ActsAs at *
  rw [ExceptT.run_bind, StateT.run_bind, head]
  exact tail

theorem ActsAs.get : ActsAs state (getThe (Store Completion)) (getThe (Store Completion)) := rfl

theorem ActsAs.set (store : Store Completion) :
    ActsAs state (MonadStateOf.set store) (MonadStateOf.set store) := rfl

theorem ActsAs.modify (f : Store Completion → Store Completion) :
    ActsAs state (modifyThe (Store Completion) f) (modifyThe (Store Completion) f) := rfl

end

/-- A value with nothing pending is left as it is. -/
theorem actsAs_evaluate {state : State} (evaluated : state.store.IsEvaluated) (fuel : Nat)
    (id : ValueId) : ActsAs state (evaluate fuel id) (inert id) := by
  have done : (state.store.value? id).bind Value.pending = none := by
    cases found : state.store.value? id with
    | none => rfl
    | some value => exact evaluated id value found
  have looked : ActsAs state (evaluate fuel id)
      (getThe (Store Completion) >>= fun _ => inert id) := by
    rw [evaluate]
    refine ActsAs.get.bind ?_
    split
    · exact .pure ()
    · rename_i steps pending
      cases done.symm.trans pending
  exact looked

variable {site : Site} {node : Node} {owner : ValueId}

theorem actsAs_resolve {state : State} (evaluated : state.store.IsEvaluated) (fuel : Nat)
    (scope : ScopeId) (type : Text) :
    ActsAs state (resolve (δ := Completion) (evaluate fuel) scope type)
      (resolve (δ := Completion) inert scope type) := by
  unfold resolve
  split
  · exact .pure _
  · refine ActsAs.get.bind ?_
    split
    · exact (ActsAs.modify _).bind (.pure _)
    · exact .pure _
    · exact (actsAs_evaluate evaluated fuel _).bind (.pure _)

theorem actsAs_target (state : State) (owner : ValueId) (isFunction : Bool)
    (doc : Comment.CommentDoc) (key : Text) :
    ActsAs state (target Completion owner isFunction doc key)
      (target Completion owner isFunction doc key) := by
  unfold target
  refine ActsAs.get.bind ?_
  split
  · exact .pure _
  · exact (ActsAs.set _).bind (.pure _)

theorem actsAs_bindEntries {comment : Text} (commented : site.HasBodyComment node comment)
    {state : State} (evaluated : state.store.IsEvaluated) (fuel : Nat) (owner : ValueId)
    (doc : Comment.CommentDoc) (entries : List (Text × Comment.EntryDoc)) :
    ActsAs state
      (bindEntries (δ := Completion) (evaluate fuel) site owner (node.kind = .function) doc entries)
      (bindEntries (δ := Completion) inert site owner (node.kind = .function) doc entries) := by
  induction entries generalizing state with
  | nil => exact .pure _
  | cons entry rest ih =>
    have found := changes_target commented owner (Nat.le_refl state.store.nextId) doc entry.1
    have bound := changes_boundEntry commented owner (Nat.le_refl state.store.nextId) doc entry
    exact (actsAs_target state owner _ doc entry.1).bind
      ((actsAs_resolve (found.isEvaluated evaluated) fuel _ _).bind
        ((ActsAs.modify _).bind (ih (bound.isEvaluated evaluated))))

theorem actsAs_bindReturn (state : State) (owner : ValueId) (doc : Comment.ReturnDoc) :
    ActsAs state (bindReturn (δ := Completion) owner doc)
      (bindReturn (δ := Completion) owner doc) := by
  unfold bindReturn
  split
  · refine ActsAs.get.bind ?_
    generalize Store.ensureReturn _ owner doc.type = made
    obtain ⟨_ | first, after⟩ := made
    · exact (ActsAs.set after).bind (.pure _)
    · exact (ActsAs.set after).bind (.modify _)
  · exact .pure _

theorem actsAs_bodyFragment (body : node.kind = .function ∨ node.kind = .object)
    {state : State} (evaluated : state.store.IsEvaluated) (fuel : Nat) (owner : ValueId) :
    ActsAs state (bodyFragment (δ := Completion) (evaluate fuel) site node owner)
      (bodyFragment (δ := Completion) inert site node owner) := by
  unfold bodyFragment
  cases found : site.bodyComment? node with
  | none => exact .pure _
  | some comment =>
    exact (actsAs_bindEntries ⟨body, found⟩ evaluated fuel owner _ _).bind
      ((actsAs_bindReturn _ owner _).bind (.pure _))

/-- A comment is found as if there were no evaluation. -/
theorem actsAs_fragment (site : Site) (node : Node) (owner : ValueId)
    (context : Option NodeKind) {state : State} (evaluated : state.store.IsEvaluated) (fuel : Nat) :
    ActsAs state (fragment (δ := Completion) (evaluate fuel) site node owner context)
      (fragment (δ := Completion) inert site node owner context) := by
  unfold fragment
  split
  · unfold parameterFragment
    split
    · exact .pure _
    · exact (actsAs_resolve evaluated fuel _ _).bind (.pure _)
  · exact .pure _
  · exact actsAs_bodyFragment (.inl ‹_›) evaluated fuel owner
  · exact actsAs_bodyFragment (.inr ‹_›) evaluated fuel owner
  · unfold propertyFragment
    split
    · exact .pure _
    · exact (actsAs_resolve evaluated fuel _ _).bind (.pure _)
  · exact .pure _

theorem actsAs_document (site : Site) (node : Node) (owner : ValueId)
    (context : Option NodeKind) {state : State} (evaluated : state.store.IsEvaluated) (fuel : Nat) :
    ActsAs state (document (δ := Completion) (evaluate fuel) site node owner context)
      (document (δ := Completion) inert site node owner context) :=
  (actsAs_fragment site node owner context evaluated fuel).bind (.modify _)

/-- What the words and names of a call stand for: a site, a node, the value that the node
evaluated to, and the kind of the literal around it. -/
structure Calls (state : State) (scope : Text) (request : NodeRequest)
    (context : Option NodeRequest) (site : Site) (node : Node) (owner : ValueId)
    (around : Option NodeKind) : Prop where
  stream : site.stream = state.stream
  scope : state.scopes.get? scope = some site.scope
  kind : NodeKind.ofName? request.kind = some node.kind
  node : node = ⟨node.kind, request.span, request.bodySpan, request.keyName⟩
  value : request.value.bind state.handles.get? = some owner
  present : owner < state.store.nextId
  around : context.map (fun context => NodeKind.ofName? context.kind) = around.map some
  known : ∀ outer handle, context = some outer → outer.value = some handle →
    (state.handles.get? handle).isSome = true

/-- A computation that only answers something comes before any other. -/
theorem ActsAs.answered {α β : Type} {state : State} {first : Run α} {a : α} {next : α → Run β}
    {plain : StateM (Store Completion) β} (head : ActsAs state first (Pure.pure a))
    (tail : ActsAs state (next a) plain) : ActsAs state (first >>= next) plain := by
  have run : ActsAs state (first >>= next) (Pure.pure a >>= fun _ => plain) := head.bind tail
  exact run

theorem mapM_some_eq {α β : Type} (f : α → Run β) (a : α) :
    Option.mapM f (some a) = f a >>= fun b => Pure.pure (some b) :=
  map_eq_pure_bind _ _

theorem ActsAs.mapM_some {α β : Type} {state : State} {f : α → Run β} {a : α} {b : β}
    (answer : ActsAs state (f a) (Pure.pure b)) :
    ActsAs state (Option.mapM f (some a)) (Pure.pure (some b)) := by
  rw [mapM_some_eq]
  exact answer.answered (.pure _)

section

variable {state : State}

theorem ActsAs.current : ActsAs state (getThe State) (Pure.pure state) := rfl

theorem actsAs_kindOf {word : Text} {kind : NodeKind} (found : NodeKind.ofName? word = some kind) :
    ActsAs state (kindOf word) (pure kind) := by
  unfold kindOf
  rw [found]
  exact .pure kind

theorem actsAs_valueOf {handle : Text} {id : ValueId}
    (found : state.handles.get? handle = some id) : ActsAs state (valueOf handle) (pure id) := by
  refine ActsAs.current.answered ?_
  rw [found]
  exact .pure id

theorem actsAs_scopeOf {handle : Text} {id : ScopeId} (found : state.scopes.get? handle = some id) :
    ActsAs state (scopeOf handle) (pure id) := by
  refine ActsAs.current.answered ?_
  rw [found]
  exact .pure id

end

section

variable {state : State} {scope : Text} {request : NodeRequest} {context : Option NodeRequest}
  {site : Site} {node : Node} {owner : ValueId} {around : Option NodeKind}

/-- The literal around a node is looked at for its kind alone. -/
theorem Calls.actsAs_around
    (calls : Calls state scope request context site node owner around) :
    ActsAs state (context.mapM fun context => do
      let kind ← kindOf context.kind
      let _ ← context.value.mapM valueOf
      return kind) (pure around) := by
  have kinds := calls.around
  cases context with
  | none =>
    obtain rfl : around = none := by simpa using kinds.symm
    exact .pure none
  | some outer =>
    obtain ⟨kind, rfl, found⟩ := Option.map_eq_some_iff.mp kinds.symm
    refine ActsAs.mapM_some ((actsAs_kindOf found.symm).answered ?_)
    cases inner : outer.value with
    | none => exact .pure kind
    | some handle =>
      obtain ⟨id, held⟩ := Option.isSome_iff_exists.mp (calls.known outer handle rfl inner)
      exact (ActsAs.mapM_some (actsAs_valueOf held)).answered (.pure kind)

/-- A call goes through, and it documents the node. -/
theorem run_documentNode (calls : Calls state scope request context site node owner around)
    (evaluated : state.store.IsEvaluated) (fuel : Nat) :
    (documentNode (evaluate fuel) scope request context).run.run state =
      (.ok (.graph owner), { state with
        store :=
          ((document (δ := Completion) inert site node owner around).run state.store).2 }) := by
  obtain ⟨handle, named, bound⟩ := Option.bind_eq_some_iff.mp calls.value
  have call : ActsAs state (documentNode (evaluate fuel) scope request context)
      (document (δ := Completion) inert site node owner around >>=
        fun _ => pure (.graph owner)) := by
    unfold documentNode
    refine (actsAs_kindOf calls.kind).answered ?_
    rw [named]
    refine (ActsAs.mapM_some (actsAs_valueOf bound)).answered ?_
    refine (actsAs_scopeOf calls.scope).answered ?_
    refine calls.actsAs_around.answered ?_
    refine ActsAs.current.answered ?_
    have here : (⟨state.stream, site.scope⟩ : Site) = site := by rw [← calls.stream]
    dsimp only
    rw [here, ← calls.node]
    exact (actsAs_document site node owner around evaluated fuel).bind (.pure _)
  exact call

end

/-- A computation of a session leaves the session as it is, whether it succeeds or fails. -/
def IsReading {α : Type} (action : Run α) : Prop :=
  ∀ state, (action.run.run state).2 = state

section

variable {α β : Type}

theorem IsReading.pure (a : α) : IsReading (Pure.pure a : Run α) := fun _ => rfl

theorem IsReading.throw (fault : Fault) : IsReading (MonadExcept.throw fault : Run α) :=
  fun _ => rfl

theorem IsReading.bind {first : Run α} {next : α → Run β} (head : IsReading first)
    (tail : ∀ a, IsReading (next a)) : IsReading (first >>= next) := by
  intro state
  rw [ExceptT.run_bind, StateT.run_bind]
  have kept := head state
  generalize first.run.run state = result at kept
  obtain ⟨answer | fault, after⟩ := result
  · exact kept
  · exact (tail _ after).trans kept

theorem isReading_kindOf (word : Text) : IsReading (kindOf word) := by
  unfold kindOf
  split
  · exact .pure _
  · exact .throw _

theorem isReading_valueOf (handle : Text) : IsReading (valueOf handle) := by
  refine IsReading.bind (fun _ => rfl) fun state => ?_
  split
  · exact .pure _
  · exact .throw _

theorem isReading_scopeOf (handle : Text) : IsReading (scopeOf handle) := by
  refine IsReading.bind (fun _ => rfl) fun state => ?_
  split
  · exact .pure _
  · exact .throw _

theorem IsReading.mapM {f : α → Run β} (reading : ∀ a, IsReading (f a)) (found : Option α) :
    IsReading (found.mapM f) := by
  cases found with
  | none => exact .pure none
  | some a =>
    rw [mapM_some_eq]
    exact (reading a).bind fun b => .pure (some b)

end

/-- A node that was not evaluated is not documented. -/
theorem isReading_documentNode (evaluate : ValueId → Run Unit) (scope : Text)
    {request : NodeRequest} (context : Option NodeRequest) (absent : request.value = none) :
    IsReading (documentNode evaluate scope request context) := by
  unfold documentNode
  refine (isReading_kindOf _).bind fun kind => ?_
  rw [absent]
  have nothing : Option.mapM valueOf none = (Pure.pure none : Run (Option ValueId)) := rfl
  rw [nothing, pure_bind]
  refine (isReading_scopeOf scope).bind fun scope => ?_
  refine (IsReading.mapM (fun outer => ?_) context).bind fun around => .pure Result.nothing
  refine (isReading_kindOf _).bind fun kind => ?_
  exact (IsReading.mapM isReading_valueOf _).bind fun _ => .pure kind

/-- As long as no value has a computation pending, a call that documents a node changes no more
of the session than `Confined` lists. It changes nothing if the node was not evaluated, if
nodes of its kind are not documented there, or if no comment says anything. The prototype of
the node's value, if there is one, has to be a value of the graph. -/
theorem documentNode_confined (fuel : Nat) {state : State} (evaluated : state.store.IsEvaluated)
    (scope : Text) (request : NodeRequest) (context : Option NodeRequest) :
    let call := (documentNode (evaluate fuel) scope request context).run.run state
    (request.value = none → call.2 = state) ∧
    ∀ site node owner around, Calls state scope request context site node owner around →
      state.store.KnowsPrototype owner →
      ∃ after, call = (.ok (.graph owner), { state with store := after }) ∧
        Confined site node owner state.store after ∧
        (¬ Dispatches node.kind around → after = state.store) ∧
        ((∀ comment, ¬ site.HasBodyComment node comment) →
          ((fragment (δ := Completion) (evaluate fuel) site node owner around).run.run state).1 =
            .ok {} →
          after = state.store) := by
  refine ⟨fun absent => isReading_documentNode _ scope context absent state, ?_⟩
  intro site node owner around calls prototype
  refine
    ⟨_, run_documentNode calls evaluated fuel, confined_document calls.present prototype around,
    document_of_not_dispatches state.store, fun uncommented empty => ?_⟩
  have found := congrArg Prod.fst (actsAs_fragment site node owner around evaluated fuel)
  exact document_of_empty uncommented (Except.ok.inj (found.symm.trans empty))

/-- A session in which a function `f` has a parameter, and a prototype with properties. -/
def prototypeState : State where
  store :=
    { values :=
        [{ type := ModelType.function, parameters := .ofList [("a".toList, 3)],
           properties := .ofList [("prototype".toList, 1)] },
         { type := ModelType.object, properties := .ofList [("x".toList, 2), ("y".toList, 2)] },
         { origin := .label "n.js".toList }, {}]
      scopes := [{ bindings := .ofList [("N".toList, 2)] }] }
  handles := .ofList [("f".toList, 0)]
  scopes := .ofList [("s".toList, 0)]
  stream := prototypeSite.stream

def prototypeRequest : NodeRequest :=
  { kind := "function".toList, bodySpan := some ⟨0, 24⟩, value := some "f".toList }

theorem documentNode_confined_prototype :
    prototypeState.store.IsEvaluated ∧
      Calls prototypeState "s".toList prototypeRequest none prototypeSite prototypeNode 0 none ∧
      ∃ after, (documentNode (evaluate 0) "s".toList prototypeRequest none).run.run prototypeState =
          (.ok (.graph 0), { prototypeState with store := after }) ∧
        Confined prototypeSite prototypeNode 0 prototypeState.store after := by
  have evaluated : prototypeState.store.IsEvaluated := by
    intro id value found
    have all : ∀ value ∈ prototypeState.store.values, value.isEvaluated = true := by decide
    exact Option.isNone_iff_eq_none.mp (all value (List.mem_of_getElem? found))
  have calls : Calls prototypeState "s".toList prototypeRequest none prototypeSite prototypeNode 0
      none :=
    ⟨rfl, by decide, by decide, rfl, by decide, by decide, rfl, fun _ _ same => nomatch same⟩
  obtain ⟨after, run, confined, _⟩ :=
    (documentNode_confined 0 evaluated "s".toList prototypeRequest none).2 prototypeSite
      prototypeNode 0 none calls (by
        intro holder found
        obtain rfl : 1 = holder := Option.some.inj found
        decide)
  exact ⟨evaluated, calls, after, run, confined⟩

end Session

end CommentDocs
