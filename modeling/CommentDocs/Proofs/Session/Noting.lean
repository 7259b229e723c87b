import CommentDocs.Proofs.Session.Calls
import CommentDocs.Proofs.Session.Chronicle

/-!
# Sessions that keep a chronicle

A session forgets what the steps of a completion come to, and one step may replace several
annotations. Here a session runs as it does and notes the moments on the way, at every depth of
nesting. A `Law` is what such a run may have in common with the plain run: it holds of whatever
leaves alone what is pending, and of computations one after another. So it holds of every step
that puts off no completion, as long as it holds of the ways to complete a value, and the code of
the steps is gone through once for all laws.
-/

namespace CommentDocs.Session

open Binding Chronicle Syntax

/-- Computations on a session that keep its chronicle. -/
abbrev Noting := ExceptT Fault (StateM Chronicle)

namespace Noting

def plainly {α : Type} (action : Run α) : Noting α :=
  ExceptT.mk fun chronicle =>
    let ran : Except Fault α × State := action.run.run chronicle.state
    (ran.1, { chronicle with state := ran.2 })

def note (moment : Moment) : Noting Unit :=
  modifyThe Chronicle fun chronicle =>
    { chronicle with moments := chronicle.moments ++ [moment] }

instance : MonadStateOf (Store Completion) Noting where
  get := plainly (getThe (Store Completion))
  set store := plainly (MonadStateOf.set store)
  modifyGet f := plainly (modifyGetThe (Store Completion) f)

/-- Complete a value by which an annotation is replaced. -/
def linking (evaluate : ValueId → Noting Unit) (id : ValueId) : Noting Unit := do
  evaluate id
  note (.linked id)

def documentNode (evaluate : ValueId → Noting Unit) (scope : Text) (request : NodeRequest)
    (context : Option NodeRequest) : Noting Result := do
  let kind ← plainly (kindOf request.kind)
  let value ← plainly (request.value.mapM valueOf)
  let scope ← plainly (scopeOf scope)
  let contextKind ← plainly (context.mapM fun context => do
    let kind ← kindOf context.kind
    let _ ← context.value.mapM valueOf
    return kind)
  match value with
  | none => return .nothing
  | some id =>
    let site : Site := { stream := (← plainly (getThe State)).stream, scope }
    let node : Node := ⟨kind, request.span, request.bodySpan, request.keyName⟩
    Binding.document (δ := Completion) (linking evaluate) site node id contextKind
    return .graph id

/-- Perform one step. Only four kinds of steps concern pending computations. -/
def perform (evaluate : ValueId → Noting Unit) : Step → Noting Result
  | .value handle type name origin module completion => do
    if completion.isSome then note (.deferred (← getThe (Store Completion)).nextId)
    plainly (Session.perform (fun _ => pure ()) (.value handle type name origin module completion))
  | .evaluate value => do
    evaluate (← plainly (valueOf value))
    return .graph (← plainly (valueOf value))
  | .resolve type scope => do
    let scope ← plainly (scopeOf scope)
    match ← Binding.resolve (δ := Completion) (linking evaluate) scope type with
    | .text text => return .text text
    | .value id => return .found (some id)
    | .datum _ => return .nothing
  | .document scope node context => documentNode evaluate scope node context
  | step => plainly (Session.perform (fun _ => pure ()) step)

def performAll (evaluate : ValueId → Noting Unit) : List Step → Noting Unit
  | [] => return
  | step :: rest => do
    let _ ← perform evaluate step
    performAll evaluate rest

def start (id : ValueId) : Noting Unit := do
  plainly (change (·.start id))
  note (.started id)

/-- Complete a value, if that is still to be done. -/
def evaluate : (fuel : Nat) → ValueId → Noting Unit
  | fuel, id => do
    match (← getThe (Store Completion)).pending? id with
    | none => return
    | some steps =>
      match fuel with
      | 0 => throw .endless
      | fuel + 1 =>
        start id
        performAll (evaluate fuel) steps

def report (fuel : Nat) (chronicle : Chronicle) (step : Step) : Report × Chronicle :=
  let ran := (perform (evaluate fuel) step).run.run chronicle.unreported
  (⟨ran.1, ran.2.state.store.events, ran.2.state⟩, ran.2)

/-- The reports of the remaining steps, and the chronicle at the end. -/
def reports (fuel : Nat) (chronicle : Chronicle) : List Step → List Report × Chronicle
  | [] => ([], chronicle)
  | step :: rest =>
    let done := report fuel chronicle step
    let others := reports fuel done.2 rest
    (done.1 :: others.1, others.2)

/-- Note what an annotation is replaced by. -/
def noteLink : TypeNote → Noting Unit
  | .value id => note (.linked id)
  | _ => return

/-- An annotation is noted right when it is replaced by a value, and only then. -/
theorem resolve_linking (evaluate : ValueId → Noting Unit) (scope : ScopeId) (type : Text) :
    resolve (δ := Completion) (linking evaluate) scope type = do
      let found ← resolve (δ := Completion) evaluate scope type
      noteLink found
      return found := by
  unfold resolve
  split
  · rfl
  · rw [bind_assoc]
    refine bind_congr fun store => ?_
    cases resolution store scope type with
    | unresolved => rfl
    | moduleId id => rfl
    | value id => simp only [linking, noteLink, bind_assoc, pure_bind]

end Noting

section

variable {σ α β : Type} {first : ExceptT Fault (StateM σ) α} {before after : σ}

theorem run_bind_ok (next : α → ExceptT Fault (StateM σ) β) {a : α}
    (ran : first.run.run before = (.ok a, after)) :
    (first >>= next).run.run before = (next a).run.run after := by
  rw [ExceptT.run_bind, StateT.run_bind, ran]
  rfl

theorem run_bind_error (next : α → ExceptT Fault (StateM σ) β) {fault : Fault}
    (ran : first.run.run before = (.error fault, after)) :
    (first >>= next).run.run before = (.error fault, after) := by
  rw [ExceptT.run_bind, StateT.run_bind, ran]
  rfl

end

/-- From a state, a computation leaves alone what is pending, and it does not give up. -/
structure QuietAt {α : Type} (state : State) (action : Run α) : Prop where
  kept : state.store.Quiet (action.run.run state).2.store
  ends : (action.run.run state).1 ≠ .error .endless

/-- A computation leaves alone what is pending, and it does not give up. -/
def IsQuiet {α : Type} (action : Run α) : Prop :=
  ∀ state, QuietAt state action

namespace IsQuiet

variable {α β : Type}

theorem pure (a : α) : IsQuiet (Pure.pure a : Run α) :=
  fun _ => ⟨.refl, nofun⟩

theorem throw {fault : Fault} (other : fault ≠ .endless) :
    IsQuiet (MonadExcept.throw fault : Run α) :=
  fun _ => ⟨.refl, fun same => other (Except.error.inj same)⟩

theorem bind {first : Run α} {next : α → Run β} (head : IsQuiet first)
    (tail : ∀ a, IsQuiet (next a)) : IsQuiet (first >>= next) := by
  intro state
  obtain ⟨kept, ends⟩ := head state
  rcases ran : first.run.run state with ⟨fault | a, after⟩ <;> rw [ran] at kept ends
  · refine ⟨?_, ?_⟩ <;> rw [run_bind_error next ran]
    · exact kept
    · exact fun same => ends (congrArg _ (Except.error.inj same))
  · refine ⟨?_, ?_⟩ <;> rw [run_bind_ok next ran]
    · exact kept.trans (tail a after).kept
    · exact (tail a after).ends

theorem get : IsQuiet (getThe (Store Completion) : Run (Store Completion)) :=
  fun _ => ⟨.refl, nofun⟩

theorem current : IsQuiet (getThe State : Run State) :=
  fun _ => ⟨.refl, nofun⟩

theorem change {f : Store Completion → Store Completion}
    (kept : ∀ store : Store Completion, store.Quiet (f store)) : IsQuiet (Session.change f) :=
  fun state => ⟨kept state.store, nofun⟩

/-- A change of the session beside its graph. -/
theorem beside {f : State → State} (same : ∀ state : State, (f state).store = state.store) :
    IsQuiet (modifyThe State f : Run PUnit) := by
  intro state
  have kept : ((modifyThe State f : Run PUnit).run.run state).2.store = state.store := same state
  refine ⟨?_, nofun⟩
  rw [kept]
  exact .refl

theorem add {value : Value Completion} (complete : value.pending = none) :
    IsQuiet (Session.add value) :=
  fun _ => ⟨.add complete, nofun⟩

theorem optionMapM {f : α → Run β} (quiet : ∀ a, IsQuiet (f a)) (found : Option α) :
    IsQuiet (found.mapM f) := by
  cases found with
  | none => exact .pure none
  | some a =>
    rw [mapM_some_eq]
    exact (quiet a).bind fun _ => .pure _

theorem listMapM {f : α → Run β} (quiet : ∀ a, IsQuiet (f a)) (list : List α) :
    IsQuiet (list.mapM f) := by
  induction list with
  | nil => exact .pure []
  | cons a rest ih =>
    rw [List.mapM_cons]
    exact (quiet a).bind fun _ => ih.bind fun _ => .pure _

end IsQuiet

theorem isQuiet_kindOf (word : Text) : IsQuiet (kindOf word) := by
  unfold kindOf
  split
  · exact .pure _
  · exact .throw nofun

theorem isQuiet_tokenOf (request : TokenRequest) : IsQuiet (tokenOf request) := by
  unfold tokenOf
  split
  · exact .pure _
  · exact .throw nofun

theorem isQuiet_valueOf (handle : Text) : IsQuiet (valueOf handle) := by
  refine IsQuiet.current.bind fun state => ?_
  cases state.handles.get? handle with
  | some id => exact .pure id
  | none => exact .throw nofun

theorem isQuiet_scopeOf (handle : Text) : IsQuiet (scopeOf handle) := by
  refine IsQuiet.current.bind fun state => ?_
  cases state.scopes.get? handle with
  | some id => exact .pure id
  | none => exact .throw nofun

theorem isQuiet_fragmentOf (record : Record) (type : Option TypeSource) :
    IsQuiet (fragmentOf record type) := by
  have typed : ∀ id, IsQuiet (fragmentOf.withType record id) := fun id => .pure _
  unfold fragmentOf
  split
  · exact .pure _
  · exact (isQuiet_valueOf _).bind typed
  · exact (IsQuiet.add rfl).bind typed

/-- A change of the graph between two values of given names. -/
theorem isQuiet_relate (owner value : Text)
    {f : ValueId → ValueId → Store Completion → Store Completion}
    (kept : ∀ owner value (store : Store Completion), store.Quiet (f owner value store)) :
    IsQuiet (do
      let owner ← valueOf owner
      let value ← valueOf value
      change (f owner value)
      return Result.graph owner) :=
  (isQuiet_valueOf owner).bind fun _ => (isQuiet_valueOf value).bind fun _ =>
    (IsQuiet.change (kept _ _)).bind fun _ => .pure _

/-- A step makes a value whose completion is put off. -/
def Step.PutsOff (step : Step) : Prop :=
  ∃ handle type name origin module steps,
    step = .value handle type name origin module (some steps)

/-- The steps that may complete a value, or put its completion off. -/
def Step.concernsPending : Step → Bool
  | .value _ _ _ _ _ completion => completion.isSome
  | .evaluate _ | .resolve .. | .document .. => true
  | _ => false

theorem isQuiet_perform (evaluate : ValueId → Run Unit) {step : Step}
    (other : step.concernsPending = false) : IsQuiet (perform evaluate step) := by
  cases step with
  | value handle type name origin module completion =>
    have complete : completion = none :=
      Option.isSome_eq_false_iff.mp other |> Option.isNone_iff_eq_none.mp
    exact (IsQuiet.add complete).bind fun _ => IsQuiet.bind (.beside fun _ => rfl) fun _ => .pure _
  | evaluate => cases other
  | resolve => cases other
  | document => cases other
  | scope handle parent =>
    refine (IsQuiet.optionMapM isQuiet_scopeOf parent).bind fun parent => ?_
    refine IsQuiet.get.bind fun _ => ?_
    refine (IsQuiet.change fun store => .scopes _).bind fun _ => ?_
    exact IsQuiet.bind (.beside fun _ => rfl) fun _ => .pure _
  | setVariable scope name value =>
    refine (isQuiet_scopeOf scope).bind fun _ => (isQuiet_valueOf value).bind fun _ => ?_
    exact (IsQuiet.change fun store => .scopes _).bind fun _ => .pure _
  | lookup scope name =>
    exact (isQuiet_scopeOf scope).bind fun _ => IsQuiet.get.bind fun _ => .pure _
  | reach scope path =>
    exact (isQuiet_scopeOf scope).bind fun _ => IsQuiet.get.bind fun _ => .pure _
  | setProperty owner name value =>
    exact isQuiet_relate owner value fun owner value _ => .setProperty owner name value
  | addParameter owner name value =>
    exact isQuiet_relate owner value fun owner value _ => .addParameter owner name value
  | appendReturn owner value =>
    exact isQuiet_relate owner value fun owner value _ => .appendReturn owner value
  | getProperty owner name handle =>
    refine (isQuiet_valueOf owner).bind fun _ => IsQuiet.get.bind fun _ => ?_
    dsimp only
    split
    · exact IsQuiet.bind (.beside fun _ => rfl) fun _ => .pure _
    · exact .pure _
  | merge value record type =>
    refine (isQuiet_fragmentOf record type).bind fun _ => (isQuiet_valueOf value).bind fun _ => ?_
    exact (IsQuiet.change fun store => .mergeInto _ _).bind fun _ => .pure _
  | openStream text tokens =>
    refine (IsQuiet.listMapM isQuiet_tokenOf tokens).bind fun _ => ?_
    exact IsQuiet.bind (.beside fun _ => rfl) fun _ => .pure _
  | tokensInside span => exact IsQuiet.current.bind fun _ => .pure _
  | tokensBefore span => exact IsQuiet.current.bind fun _ => .pure _
  | textOf span => exact IsQuiet.current.bind fun _ => .pure _
  | «show» value => exact (isQuiet_valueOf value).bind fun _ => .pure _

/-- What runs that keep a chronicle may have in common with plain runs. -/
structure Law where
  Holds : {α : Type} → Chronicle → Noting α → Run α → Prop
  /-- It holds of what acts on the session alone and leaves alone what is pending. -/
  plainly : ∀ {α : Type} {chronicle : Chronicle} {action : Run α},
    QuietAt chronicle.state action → Holds chronicle (Noting.plainly action) action
  /-- It holds of one computation after another, and the second may use what the first came to. -/
  bind : ∀ {α β : Type} {chronicle : Chronicle} {first : Noting α} {plain : Run α}
    {next : α → Noting β} {rest : α → Run β}, Holds chronicle first plain →
    (∀ a after, first.run.run chronicle = (.ok a, after) → Holds after (next a) (rest a)) →
    Holds chronicle (first >>= next) (plain >>= rest)

namespace Law

variable (law : Law)

section

variable {α β : Type} {chronicle : Chronicle}

theorem pure (a : α) : law.Holds chronicle (Pure.pure a) (Pure.pure a) :=
  law.plainly (IsQuiet.pure a chronicle.state)

theorem quiet {action : Run α} (quiet : IsQuiet action) (chronicle : Chronicle) :
    law.Holds chronicle (Noting.plainly action) action :=
  law.plainly (quiet chronicle.state)

/-- Looking at the graph comes before anything else. -/
theorem get_bind {next : Store Completion → Noting β} {rest : Store Completion → Run β}
    (tail : law.Holds chronicle (next chronicle.state.store) (rest chronicle.state.store)) :
    law.Holds chronicle (getThe (Store Completion) >>= next)
      (getThe (Store Completion) >>= rest) := by
  refine law.bind (law.quiet .get chronicle) fun store after ran => ?_
  have looked : (Except.ok chronicle.state.store, chronicle) =
    ((.ok store, after) : Except Fault (Store Completion) × Chronicle) := ran
  cases looked
  exact tail

theorem set {store : Store Completion} (kept : chronicle.state.store.Quiet store) :
    law.Holds chronicle (MonadStateOf.set store) (MonadStateOf.set store) :=
  law.plainly ⟨kept, nofun⟩

theorem modify {f : Store Completion → Store Completion}
    (kept : chronicle.state.store.Quiet (f chronicle.state.store)) :
    law.Holds chronicle (modifyThe (Store Completion) f) (modifyThe (Store Completion) f) :=
  law.plainly ⟨kept, nofun⟩

end

section

variable {evaluate : ValueId → Noting Unit} {plain : ValueId → Run Unit}
  (holds : ∀ (chronicle : Chronicle) id, id < chronicle.state.store.nextId →
    law.Holds chronicle (evaluate id) (plain id))
  (chronicle : Chronicle) (site : Site) (node : Node) (owner : ValueId)

include holds

theorem holds_resolve (scope : ScopeId) (type : Text) :
    law.Holds chronicle (resolve (δ := Completion) evaluate scope type)
      (resolve (δ := Completion) plain scope type) := by
  unfold resolve
  split
  · exact law.pure _
  · refine law.get_bind ?_
    split
    · exact law.bind (law.modify (.report rfl)) fun _ _ _ => law.pure _
    · exact law.pure _
    · rename_i comes
      obtain ⟨value, found, _⟩ := offers_of_resolution comes
      have known := chronicle.state.store.lt_nextId found
      exact law.bind (holds chronicle _ known) fun _ _ _ => law.pure _

omit holds in
theorem holds_target (isFunction : Bool) (doc : Comment.CommentDoc) (key : Text) :
    law.Holds chronicle (target Completion owner isFunction doc key)
      (target Completion owner isFunction doc key) := by
  unfold target
  refine law.get_bind ?_
  split
  · exact law.pure _
  · exact law.bind (law.set (.fabricate owner isFunction key _)) fun _ _ _ => law.pure _

omit holds in
theorem holds_mergeInto (id : ValueId) (fragment : Fragment) :
    law.Holds chronicle (Binding.mergeInto Completion id fragment)
      (Binding.mergeInto Completion id fragment) :=
  law.modify (.mergeInto id fragment)

theorem holds_bindEntries (isFunction : Bool) (doc : Comment.CommentDoc)
    (entries : List (Text × Comment.EntryDoc)) :
    law.Holds chronicle (bindEntries (δ := Completion) evaluate site owner isFunction doc entries)
      (bindEntries (δ := Completion) plain site owner isFunction doc entries) := by
  induction entries generalizing chronicle with
  | nil => exact law.pure _
  | cons entry rest ih =>
    refine law.bind (law.holds_target chronicle owner isFunction doc entry.1) fun _ found _ => ?_
    refine law.bind (law.holds_resolve holds found site.scope entry.2.type) fun _ typed _ => ?_
    exact law.bind (law.holds_mergeInto typed _ _) fun _ bound _ => ih bound

omit holds in
theorem holds_bindReturn (doc : Comment.ReturnDoc) :
    law.Holds chronicle (bindReturn (δ := Completion) owner doc)
      (bindReturn (δ := Completion) owner doc) := by
  unfold bindReturn
  split
  · refine law.get_bind ?_
    have kept : chronicle.state.store.Quiet (chronicle.state.store.ensureReturn owner doc.type).2 :=
      .ensureReturn owner doc.type
    generalize Store.ensureReturn _ owner doc.type = made at kept
    obtain ⟨_ | first, after⟩ := made
    · exact law.bind (law.set kept) fun _ _ _ => law.pure _
    · exact law.bind (law.set kept) fun _ added _ => law.holds_mergeInto added first _
  · exact law.pure _

theorem holds_bodyFragment :
    law.Holds chronicle (bodyFragment (δ := Completion) evaluate site node owner)
      (bodyFragment (δ := Completion) plain site node owner) := by
  unfold bodyFragment
  split
  · exact law.pure _
  · refine law.bind (law.holds_bindEntries holds chronicle site owner _ _ _) fun _ bound _ => ?_
    exact law.bind (law.holds_bindReturn bound owner _) fun _ _ _ => law.pure _

theorem holds_fragment (context : Option NodeKind) :
    law.Holds chronicle (fragment (δ := Completion) evaluate site node owner context)
      (fragment (δ := Completion) plain site node owner context) := by
  unfold fragment
  split
  · unfold parameterFragment
    split
    · exact law.pure _
    · exact law.bind (law.holds_resolve holds chronicle _ _) fun _ _ _ => law.pure _
  · exact law.pure _
  · exact law.holds_bodyFragment holds chronicle site node owner
  · exact law.holds_bodyFragment holds chronicle site node owner
  · unfold propertyFragment
    split
    · exact law.pure _
    · exact law.bind (law.holds_resolve holds chronicle _ _) fun _ _ _ => law.pure _
  · exact law.pure _

theorem holds_document (context : Option NodeKind) :
    law.Holds chronicle (document (δ := Completion) evaluate site node owner context)
      (document (δ := Completion) plain site node owner context) :=
  law.bind (law.holds_fragment holds chronicle site node owner context) fun _ documented _ =>
    law.holds_mergeInto documented owner _

end

/-- A law holds of a way to complete values, on its own and where an annotation is replaced. -/
structure Covers (noting : ValueId → Noting Unit) (plain : ValueId → Run Unit) : Prop where
  evaluating : ∀ chronicle id, law.Holds chronicle (noting id) (plain id)
  linking : ∀ (chronicle : Chronicle) id, id < chronicle.state.store.nextId →
    law.Holds chronicle (Noting.linking noting id) (plain id)

variable {law} {noting : ValueId → Noting Unit} {plain : ValueId → Run Unit}

theorem Covers.documentNode (covers : law.Covers noting plain) (chronicle : Chronicle)
    (scope : Text) (request : NodeRequest) (context : Option NodeRequest) :
    law.Holds chronicle (Noting.documentNode noting scope request context)
      (documentNode plain scope request context) := by
  have around : ∀ outer : NodeRequest, IsQuiet (do
      let kind ← kindOf outer.kind
      let _ ← outer.value.mapM valueOf
      return kind) := fun outer =>
    (isQuiet_kindOf _).bind fun _ => (IsQuiet.optionMapM isQuiet_valueOf _).bind fun _ => .pure _
  unfold Noting.documentNode Session.documentNode
  refine law.bind (law.quiet (isQuiet_kindOf _) chronicle) fun kind named _ => ?_
  refine law.bind (law.quiet (.optionMapM isQuiet_valueOf _) named) fun value found _ => ?_
  refine law.bind (law.quiet (isQuiet_scopeOf scope) found) fun scope placed _ => ?_
  refine law.bind (law.quiet (.optionMapM around context) placed) fun outer ready _ => ?_
  split
  · exact law.pure _
  · refine law.bind (law.quiet .current ready) fun state opened _ => ?_
    refine law.bind (law.holds_document covers.linking opened _ _ _ _) fun _ _ _ => law.pure _

/-- A law holds of every step that puts off no completion. -/
theorem Covers.perform (covers : law.Covers noting plain) (chronicle : Chronicle) {step : Step}
    (complete : ¬ step.PutsOff) :
    law.Holds chronicle (Noting.perform noting step) (perform plain step) := by
  cases step with
  | value handle type name origin module completion =>
    cases completion with
    | none => exact law.quiet (isQuiet_perform _ rfl) chronicle
    | some steps => exact absurd ⟨handle, type, name, origin, module, steps, rfl⟩ complete
  | evaluate value =>
    refine law.bind (law.quiet (isQuiet_valueOf value) chronicle) fun id found _ => ?_
    refine law.bind (covers.evaluating found id) fun _ settled _ => ?_
    exact law.bind (law.quiet (isQuiet_valueOf value) settled) fun _ _ _ => law.pure _
  | resolve type scope =>
    refine law.bind (law.quiet (isQuiet_scopeOf scope) chronicle) fun id found _ => ?_
    refine law.bind (law.holds_resolve covers.linking found id type) fun note _ _ => ?_
    cases note with
    | text text => exact law.pure _
    | value id => exact law.pure _
    | datum datum => exact law.pure _
  | document scope node context => exact covers.documentNode chronicle scope node context
  | scope | setVariable | lookup | reach | setProperty | addParameter | appendReturn | getProperty
  | merge | openStream | tokensInside | tokensBefore | textOf | «show» =>
    exact law.quiet (isQuiet_perform _ rfl) chronicle

end Law

end CommentDocs.Session
