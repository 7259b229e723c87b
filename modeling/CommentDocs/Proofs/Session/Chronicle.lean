import CommentDocs.Proofs.Graph.Views
import CommentDocs.Session.Run
import Mathlib.Logic.Relation

/-!
# Chronicles

What matters about the computations that are pending on values is the order of three kinds of
moments: a value is made whose completion is put off, a completion is started, and an annotation
is replaced by a value. A chronicle is the state of a session together with the moments that have
passed. It advances in four ways only, and each of them keeps `Accounted`: what is pending is
what was put off and not started, no completion was started twice, and no annotation was replaced
by a value whose completion had not been started.
-/

namespace CommentDocs

def Event.started? : Event → Option ValueId
  | .startedEvaluation id => some id
  | _ => none

namespace Store

variable {δ : Type}

def pending? (store : Store δ) (id : ValueId) : Option δ :=
  (store.value? id).bind Value.pending

def start (store : Store δ) (id : ValueId) : Store δ :=
  (store.update id fun value => { value with pending := none }).report (.startedEvaluation id)

def starts (store : Store δ) : List ValueId :=
  store.events.filterMap Event.started?

variable (store : Store δ)

theorem lt_nextId_of_pending? {id : ValueId} (pending : (store.pending? id).isSome = true) :
    id < store.nextId := by
  obtain ⟨steps, found⟩ := Option.isSome_iff_exists.mp pending
  obtain ⟨value, present, _⟩ := Option.bind_eq_some_iff.mp found
  exact store.lt_nextId present

theorem pending?_add (value : Value δ) (id : ValueId) :
    (store.add value).pending? id =
      if id = store.nextId then value.pending else store.pending? id := by
  unfold pending?
  rw [value?_add]
  split <;> rfl

theorem pending?_update (id other : ValueId) {change : Value δ → Value δ}
    (same : ∀ value, (change value).pending = value.pending) :
    (store.update id change).pending? other = store.pending? other := by
  unfold pending?
  rw [value?_update]
  split
  · rename_i eq
    subst eq
    cases store.value? other with
    | none => rfl
    | some value => exact same value
  · rfl

theorem pending?_start (id other : ValueId) :
    (store.start id).pending? other = if other = id then none else store.pending? other := by
  unfold pending? start
  rw [value?_report, value?_update]
  split
  · cases store.value? id <;> rfl
  · rfl

theorem nextId_start (id : ValueId) : (store.start id).nextId = store.nextId :=
  store.nextId_update id _

theorem starts_start (id : ValueId) : (store.start id).starts = store.starts ++ [id] := by
  unfold starts start report
  rw [List.filterMap_append]
  rfl

/-- A change of the graph that leaves alone what is pending. -/
structure Quiet (before after : Store δ) : Prop where
  pending : ∀ id, after.pending? id = before.pending? id
  nextId : before.nextId ≤ after.nextId
  starts : after.starts = before.starts

namespace Quiet

variable {store : Store δ}

theorem refl : Quiet store store :=
  ⟨fun _ => rfl, Nat.le_refl _, rfl⟩

theorem trans {middle after : Store δ} (first : Quiet store middle) (second : Quiet middle after) :
    Quiet store after :=
  ⟨fun id => (second.pending id).trans (first.pending id), Nat.le_trans first.nextId second.nextId,
    second.starts.trans first.starts⟩

theorem update (id : ValueId) {change : Value δ → Value δ}
    (same : ∀ value, (change value).pending = value.pending) :
    Quiet store (store.update id change) :=
  ⟨fun other => store.pending?_update id other same,
    Nat.le_of_eq (store.nextId_update id change).symm, rfl⟩

theorem report {event : Event} (other : event.started? = none) :
    Quiet store (store.report event) := by
  refine ⟨fun _ => rfl, Nat.le_refl _, ?_⟩
  unfold Store.starts Store.report
  rw [List.filterMap_append, List.filterMap_cons_none other, List.filterMap_nil, List.append_nil]

/-- A new value that has nothing pending. -/
theorem add {value : Value δ} (complete : value.pending = none) :
    Quiet store (store.add value) := by
  refine ⟨fun id => ?_, (store.nextId_add value).symm ▸ Nat.le_succ _, rfl⟩
  rw [pending?_add]
  split
  · rename_i new
    have absent : store.value? id = none := store.value?_eq_none_iff.mpr (Nat.le_of_eq new.symm)
    rw [complete, pending?, absent, Option.bind_none]
  · rfl

/-- A change of the scopes. -/
theorem scopes (scopes : List Scope) : Quiet store { store with scopes } :=
  ⟨fun _ => rfl, Nat.le_refl _, rfl⟩

theorem setProperty (id : ValueId) (name : Text) (target : ValueId) :
    Quiet store (store.setProperty id name target) :=
  update id fun _ => rfl

theorem appendReturn (id target : ValueId) : Quiet store (store.appendReturn id target) :=
  update id fun _ => rfl

theorem addParameter (id : ValueId) (name : Text) (target : ValueId) :
    Quiet store (store.addParameter id name target) :=
  update id fun _ => rfl

theorem mergeInto (id : ValueId) (fragment : Fragment) :
    Quiet store (store.mergeInto id fragment) :=
  update id fun _ => rfl

theorem ensurePrototype (owner : ValueId) : Quiet store (store.ensurePrototype owner).2 := by
  unfold Store.ensurePrototype
  split
  · exact refl
  · exact (add rfl).trans (setProperty owner _ _)

theorem fabricate (owner : ValueId) (isFunction : Bool) (key type : Text) :
    Quiet store (store.fabricate owner isFunction key type).2 := by
  unfold Store.fabricate
  cases isFunction with
  | false => exact (add rfl).trans ((setProperty _ _ _).trans (report rfl))
  | true =>
    exact (add rfl).trans ((ensurePrototype owner).trans ((setProperty _ _ _).trans (report rfl)))

theorem ensureReturn (owner : ValueId) (type : Text) :
    Quiet store (store.ensureReturn owner type).2 := by
  unfold Store.ensureReturn
  split
  · exact refl
  · split
    · exact refl
    · exact (add rfl).trans ((appendReturn owner _).trans (report rfl))

end Quiet

end Store

namespace Session

inductive Moment where
  /-- A value is made whose completion is put off. -/
  | deferred (id : ValueId)
  /-- The completion of a value is started. -/
  | started (id : ValueId)
  /-- An annotation is replaced by a value. -/
  | linked (id : ValueId)
  deriving DecidableEq, Repr

def Moment.started? : Moment → Option ValueId
  | .started id => some id
  | _ => none

/-- The state of a session, and the moments that have passed. -/
structure Chronicle where
  state : State
  moments : List Moment := []

namespace Chronicle

/-- A chronicle that starts where a session stands: what is pending was put off before. -/
def opening (state : State) : Chronicle where
  state
  moments :=
    ((List.range state.store.nextId).filter fun id => (state.store.pending? id).isSome).map
      .deferred

/-- The chronicle before a step, of which nothing is reported yet. -/
def unreported (chronicle : Chronicle) : Chronicle :=
  { chronicle with
    state := { chronicle.state with store := { chronicle.state.store with events := [] } } }

def start (chronicle : Chronicle) (id : ValueId) : Chronicle where
  state := { chronicle.state with store := chronicle.state.store.start id }
  moments := chronicle.moments ++ [.started id]

@[simp] theorem start_store (chronicle : Chronicle) (id : ValueId) :
    (chronicle.start id).state.store = chronicle.state.store.start id := rfl

@[simp] theorem start_moments (chronicle : Chronicle) (id : ValueId) :
    (chronicle.start id).moments = chronicle.moments ++ [.started id] := rfl

/-- The ways in which a chronicle advances. -/
inductive Advance : Chronicle → Chronicle → Prop
  /-- Whatever happens, nothing about pending computations changes. -/
  | quiet {chronicle : Chronicle} {state : State} (kept : chronicle.state.store.Quiet state.store) :
      Advance chronicle { chronicle with state }
  /-- A value is made whose completion is put off. -/
  | deferred {chronicle : Chronicle} {state : State} (value : Value Completion)
      (put : value.pending.isSome = true) (added : state.store = chronicle.state.store.add value) :
      Advance chronicle ⟨state, chronicle.moments ++ [.deferred chronicle.state.store.nextId]⟩
  /-- A completion that is pending is started. -/
  | started {chronicle : Chronicle} (id : ValueId)
      (pending : (chronicle.state.store.pending? id).isSome = true) :
      Advance chronicle (chronicle.start id)
  /-- An annotation is replaced by a value that has nothing pending. -/
  | linked {chronicle : Chronicle} (id : ValueId) (known : id < chronicle.state.store.nextId)
      (settled : chronicle.state.store.pending? id = none) :
      Advance chronicle { chronicle with moments := chronicle.moments ++ [.linked id] }

/-- A chronicle advances any number of times. -/
abbrev Advances : Chronicle → Chronicle → Prop :=
  Relation.ReflTransGen Advance

variable {chronicle after : Chronicle}

theorem Advance.nextId_le (advance : Advance chronicle after) :
    chronicle.state.store.nextId ≤ after.state.store.nextId := by
  cases advance with
  | quiet kept => exact kept.nextId
  | deferred value put added =>
    rw [added, Store.nextId_add]
    exact Nat.le_succ _
  | started id pending => exact Nat.le_of_eq (chronicle.state.store.nextId_start id).symm
  | linked id known settled => exact Nat.le_refl _

theorem Advances.nextId_le (advances : Advances chronicle after) :
    chronicle.state.store.nextId ≤ after.state.store.nextId := by
  induction advances with
  | refl => exact Nat.le_refl _
  | tail _ advance ih => exact Nat.le_trans ih advance.nextId_le

/-- What has nothing pending stays so. -/
theorem Advance.settled (advance : Advance chronicle after) {id : ValueId}
    (old : id < chronicle.state.store.nextId) (settled : chronicle.state.store.pending? id = none) :
    after.state.store.pending? id = none := by
  cases advance with
  | quiet kept => exact (kept.pending id).trans settled
  | deferred value put added =>
    rw [added, Store.pending?_add, if_neg (Nat.ne_of_lt old)]
    exact settled
  | started other pending =>
    rw [start_store, Store.pending?_start]
    split
    · rfl
    · exact settled
  | linked other known done => exact settled

theorem Advances.settled (advances : Advances chronicle after) {id : ValueId}
    (old : id < chronicle.state.store.nextId) (settled : chronicle.state.store.pending? id = none) :
    after.state.store.pending? id = none := by
  induction advances with
  | refl => exact settled
  | tail earlier advance ih =>
    exact advance.settled (Nat.lt_of_lt_of_le old (Advances.nextId_le earlier)) ih

theorem filterMap_started?_concat {passed : List Moment} {moment : Moment}
    (other : moment.started? = none) :
    (passed ++ [moment]).filterMap Moment.started? = passed.filterMap Moment.started? := by
  rw [List.filterMap_append, List.filterMap_cons_none other, List.filterMap_nil, List.append_nil]

/-- The moments in which a completion is started are those that the session reports. -/
theorem Advances.starts (advances : Advances chronicle after) :
    ∃ passed, after.moments = chronicle.moments ++ passed ∧
      after.state.store.starts =
        chronicle.state.store.starts ++ passed.filterMap Moment.started? := by
  induction advances with
  | refl => exact ⟨[], (List.append_nil _).symm, (List.append_nil _).symm⟩
  | tail _ advance ih =>
    obtain ⟨passed, moments, starts⟩ := ih
    cases advance with
    | quiet kept => exact ⟨passed, moments, kept.starts.trans starts⟩
    | deferred value put added =>
      refine ⟨passed ++ [_], by rw [moments, List.append_assoc], ?_⟩
      rw [filterMap_started?_concat rfl, added]
      exact starts
    | started id pending =>
      refine ⟨passed ++ [.started id], by rw [start_moments, moments, List.append_assoc], ?_⟩
      rw [start_store, Store.starts_start, starts, List.filterMap_append, List.append_assoc]
      rfl
    | linked id known done =>
      refine ⟨passed ++ [_], by rw [moments, List.append_assoc], ?_⟩
      rw [filterMap_started?_concat rfl]
      exact starts

/-- The moments account for what is pending, and they come in order. -/
structure Accounted (chronicle : Chronicle) : Prop where
  /-- Pending is what was put off and not started. -/
  pending : ∀ id, (chronicle.state.store.pending? id).isSome = true ↔
    .deferred id ∈ chronicle.moments ∧ .started id ∉ chronicle.moments
  known : ∀ id, .started id ∈ chronicle.moments ∨ .linked id ∈ chronicle.moments →
    id < chronicle.state.store.nextId
  once : ∀ id, chronicle.moments.count (.started id) ≤ 1
  /-- Whatever was put off has been started before its value is linked. -/
  ordered : ∀ earlier id later, chronicle.moments = earlier ++ .linked id :: later →
    .deferred id ∈ chronicle.moments → .started id ∈ earlier

theorem mem_opening_iff {state : State} {moment : Moment} :
    moment ∈ (opening state).moments ↔
      ∃ id, (state.store.pending? id).isSome = true ∧ moment = .deferred id := by
  constructor
  · intro listed
    obtain ⟨id, pending, rfl⟩ := List.mem_map.mp listed
    exact ⟨id, (List.mem_filter.mp pending).2, rfl⟩
  · rintro ⟨id, pending, rfl⟩
    have known := List.mem_range.mpr (state.store.lt_nextId_of_pending? pending)
    exact List.mem_map_of_mem (List.mem_filter.mpr ⟨known, pending⟩)

theorem accounted_opening (state : State) : Accounted (opening state) := by
  have unstarted : ∀ id, Moment.started id ∉ (opening state).moments := by
    intro id started
    obtain ⟨_, _, same⟩ := mem_opening_iff.mp started
    cases same
  have unlinked : ∀ id, Moment.linked id ∉ (opening state).moments := by
    intro id linked
    obtain ⟨_, _, same⟩ := mem_opening_iff.mp linked
    cases same
  refine ⟨fun id => ?_, fun id passed => ?_, fun id => ?_, fun earlier id later split => ?_⟩
  · constructor
    · exact fun pending => ⟨mem_opening_iff.mpr ⟨id, pending, rfl⟩, unstarted id⟩
    · rintro ⟨deferred, _⟩
      obtain ⟨other, pending, same⟩ := mem_opening_iff.mp deferred
      cases same
      exact pending
  · exact (passed.elim (unstarted id) (unlinked id)).elim
  · rw [List.count_eq_zero.mpr (unstarted id)]
    exact Nat.zero_le 1
  · exact absurd (split ▸ List.mem_append_right _ List.mem_cons_self) (unlinked id)

/-- One more moment keeps the order, if a link comes after the start and nothing that is linked is
put off again. -/
theorem Accounted.ordered_append (accounted : Accounted chronicle) {moment : Moment}
    (links : ∀ id, moment = .linked id → .deferred id ∈ chronicle.moments →
      .started id ∈ chronicle.moments)
    (puts : ∀ id, moment = .deferred id → .linked id ∉ chronicle.moments)
    (earlier : List Moment) (id : ValueId) (later : List Moment)
    (split : chronicle.moments ++ [moment] = earlier ++ .linked id :: later)
    (deferred : .deferred id ∈ chronicle.moments ++ [moment]) : .started id ∈ earlier := by
  rcases List.eq_nil_or_concat later with rfl | ⟨rest, last, rfl⟩
  · obtain ⟨rfl, same⟩ := List.append_inj' split rfl
    cases List.head_eq_of_cons_eq same
    exact links id rfl (by simpa using deferred)
  · rw [List.concat_eq_append, ← List.cons_append, ← List.append_assoc] at split
    have shorter := (List.append_inj' split rfl).1
    refine accounted.ordered earlier id rest shorter ?_
    rcases List.mem_append.mp deferred with old | new
    · exact old
    · have linked : Moment.linked id ∈ chronicle.moments := by
        rw [shorter]
        exact List.mem_append_right _ List.mem_cons_self
      exact absurd linked (puts id (List.mem_singleton.mp new).symm)

theorem Accounted.advance (accounted : Accounted chronicle) (advance : Advance chronicle after) :
    Accounted after := by
  have grown := advance.nextId_le
  have before : ∀ id, .started id ∈ chronicle.moments ∨ .linked id ∈ chronicle.moments →
      id < after.state.store.nextId := fun id passed =>
    Nat.lt_of_lt_of_le (accounted.known id passed) grown
  cases advance with
  | quiet kept =>
    refine ⟨fun id => ?_, before, accounted.once, accounted.ordered⟩
    rw [kept.pending]
    exact accounted.pending id
  | deferred value put added =>
    -- The new value is known to no moment so far.
    have unpassed : ¬ (Moment.started chronicle.state.store.nextId ∈ chronicle.moments ∨
        Moment.linked chronicle.state.store.nextId ∈ chronicle.moments) := fun passed =>
      Nat.lt_irrefl _ (accounted.known _ passed)
    obtain ⟨unstarted, unlinked⟩ := not_or.mp unpassed
    refine ⟨fun id => ?_, fun id passed => before id (by simpa using passed), fun id => ?_,
      accounted.ordered_append (fun _ same => nomatch same) fun id same => ?_⟩
    · rw [added, Store.pending?_add]
      by_cases new : id = chronicle.state.store.nextId
      · subst new
        simp [put, unstarted]
      · simp [new, accounted.pending id]
    · simpa using accounted.once id
    · cases same
      exact unlinked
  | started id pending =>
    have unstarted := ((accounted.pending id).mp pending).2
    refine ⟨fun other => ?_, fun other passed => ?_, fun other => ?_,
      accounted.ordered_append (fun _ same => nomatch same) fun _ same => nomatch same⟩
    · rw [start_store, Store.pending?_start]
      by_cases same : other = id
      · simp [same]
      · simp [same, accounted.pending other]
    · by_cases same : other = id
      · subst same
        exact Nat.lt_of_lt_of_le (chronicle.state.store.lt_nextId_of_pending? pending) grown
      · exact before other (by simpa [same] using passed)
    · by_cases same : other = id
      · subst same
        simp [List.count_eq_zero.mpr unstarted]
      · have once := accounted.once other
        simpa [List.count_cons, Ne.symm same] using once
  | linked id known settled =>
    refine ⟨fun other => ?_, fun other passed => ?_, fun other => ?_,
      accounted.ordered_append (fun other same put => ?_) fun _ same => nomatch same⟩
    · simp [accounted.pending other]
    · by_cases same : other = id
      · exact same ▸ known
      · exact before other (by simpa [same] using passed)
    · simpa using accounted.once other
    · cases same
      refine Decidable.byContradiction fun unstarted => ?_
      have pending := (accounted.pending id).mpr ⟨put, unstarted⟩
      rw [settled] at pending
      cases pending

theorem Accounted.advances (accounted : Accounted chronicle) (advances : Advances chronicle after) :
    Accounted after := by
  induction advances with
  | refl => exact accounted
  | tail _ advance ih => exact ih.advance advance

end Chronicle

end Session

end CommentDocs
