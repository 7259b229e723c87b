import CommentDocs.Proofs.Binding.Naming

/-!
# The values that a body comment makes

The keys of a body comment are bound one after the other. For a key that names a parameter or a
property of the value nothing is made. For any other key one value is made, bound under the key and
reported, and a function without a prototype gets one on the way. `Course` says this key by key,
because what a key makes is there when the next one is looked up; `GrowsBy` says what all keys
have made when completing values adds nothing of its own.

A graph without dangling properties is assumed throughout: a property that led to no value would
lead to whatever is made next.
-/

namespace CommentDocs

open Binding Syntax

variable {δ : Type}

theorem Comment.type_read (text : Text) (onlyKey : Option Text) :
    (Comment.read text onlyKey).type = [] := by
  cases block : Comment.Block.ofText? text with
  | none =>
    unfold Comment.read
    rw [block]
  | some found =>
    rw [Comment.read_eq_ofPassages block]
    rfl

/-- Nothing can be guessed from a comment about the type of what it documents. -/
theorem Binding.fabricatedType_read (text : Text) (onlyKey : Option Text) :
    fabricatedType (Comment.read text onlyKey) = ModelType.any := by
  rw [fabricatedType, Comment.type_read]
  rfl

def Event.fabricated? : Event → Option (Text × Bool)
  | .fabricatedProperty name onPrototype => some (name, onPrototype)
  | _ => none

namespace Store

/-- No property leads out of the graph. -/
def IsClosed (store : Store δ) : Prop :=
  ∀ id name target, store.property? id name = some target → target < store.nextId

theorem isClosed_of_entries {store : Store δ}
    (inside : ∀ value ∈ store.values, ∀ entry ∈ value.properties.entries, entry.2 < store.nextId) :
    store.IsClosed := by
  intro id name target found
  obtain ⟨value, present, bound⟩ := Option.bind_eq_some_iff.mp found
  obtain ⟨after, entries⟩ := Table.entries_eq_of_get? bound
  have mem : (name, target) ∈ value.properties.entries := by
    rw [entries]
    exact List.mem_append_right _ List.mem_cons_self
  exact inside value (List.mem_of_getElem? present) _ mem

/-- The properties that were reported as made. -/
def fabrications (store : Store δ) : List (Text × Bool) :=
  store.events.filterMap Event.fabricated?

/-- All parameters, properties and types stay, and no property is reported as made. -/
structure SameEntries (before after : Store δ) : Prop where
  size : before.nextId ≤ after.nextId
  parameter : ∀ id name, after.parameter? id name = before.parameter? id name
  property : ∀ id name, after.property? id name = before.property? id name
  type : ∀ id, id < before.nextId →
    (after.value? id).map (·.type) = (before.value? id).map (·.type)
  reports : after.fabrications = before.fabrications

namespace SameEntries

variable {a b c : Store δ}

theorem refl (store : Store δ) : SameEntries store store :=
  ⟨Nat.le_refl _, fun _ _ => rfl, fun _ _ => rfl, fun _ _ => rfl, rfl⟩

theorem trans (first : SameEntries a b) (second : SameEntries b c) : SameEntries a c where
  size := Nat.le_trans first.size second.size
  parameter id name := (second.parameter id name).trans (first.parameter id name)
  property id name := (second.property id name).trans (first.property id name)
  type id old := (second.type id (Nat.lt_of_lt_of_le old first.size)).trans (first.type id old)
  reports := second.reports.trans first.reports

theorem report (store : Store δ) {event : Event} (other : event.fabricated? = none) :
    SameEntries store (store.report event) :=
  ⟨Nat.le_refl _, fun _ _ => rfl, fun _ _ => rfl, fun _ _ => rfl, by
    simp [fabrications, Store.report, other]⟩

theorem add (store : Store δ) (type : Text) : SameEntries store (store.add { type }) where
  size := by simp
  parameter := store.parameter?_add rfl
  property := store.property?_add rfl
  type id old := by rw [store.value?_add_of_lt old]
  reports := rfl

theorem update (store : Store δ) (id : ValueId) {change : Value δ → Value δ}
    (parameters : ∀ value, (change value).parameters = value.parameters)
    (properties : ∀ value, (change value).properties = value.properties)
    (type : ∀ value, (change value).type = value.type) :
    SameEntries store (store.update id change) where
  size := by simp
  parameter other name := store.parameter?_update id other name parameters
  property other name := store.property?_update id other name properties
  type other _ := store.map_value?_update id other type
  reports := rfl

theorem mergeInto (store : Store δ) (id : ValueId) (fragment : Fragment) :
    SameEntries store (store.mergeInto id fragment) :=
  update store id (fun _ => rfl) (fun _ => rfl) fun _ => rfl

theorem appendReturn (store : Store δ) (owner target : ValueId) :
    SameEntries store (store.appendReturn owner target) :=
  update store owner (fun _ => rfl) (fun _ => rfl) fun _ => rfl

theorem ensureReturn (store : Store δ) (owner : ValueId) (type : Text) :
    SameEntries store (store.ensureReturn owner type).2 := by
  unfold Store.ensureReturn
  split
  · exact refl store
  · split
    · exact refl store
    · have appended :=
        (add store (createdReturnType type)).trans (appendReturn _ owner store.nextId)
      exact appended.trans (report _ rfl)

theorem isClosed (same : SameEntries a b) (closed : a.IsClosed) : b.IsClosed := by
  intro id name target found
  rw [same.property] at found
  exact Nat.lt_of_lt_of_le (closed id name target found) same.size

end SameEntries

/-- A key names neither a parameter of the function nor a property of the value. -/
def Lacks (store : Store δ) (owner : ValueId) (isFunction : Bool) (key : Text) : Prop :=
  (isFunction = true → store.parameter? owner key = none) ∧ store.property? owner key = none

theorem documented?_eq_none_iff (store : Store δ) {owner : ValueId} {isFunction : Bool}
    {key : Text} :
    store.documented? owner isFunction key = none ↔ store.Lacks owner isFunction key := by
  rw [documented?_eq, Option.or_eq_none_iff, Lacks]
  cases isFunction <;> simp

def LacksPrototype (store : Store δ) (owner : ValueId) (isFunction : Bool) : Prop :=
  isFunction = true ∧ store.property? owner "prototype".toList = none

instance (store : Store δ) (owner : ValueId) (isFunction : Bool) :
    Decidable (store.LacksPrototype owner isFunction) :=
  inferInstanceAs (Decidable (_ ∧ _))

/-- Where a missing key is bound: on an object itself, and on the prototype of a function. A
prototype that has to be made comes right after the value of the key. -/
def holder (store : Store δ) (owner : ValueId) (isFunction : Bool) : ValueId :=
  if isFunction then (store.property? owner "prototype".toList).getD (store.nextId + 1) else owner

/-- The key is missing, and the next value is made for it: a value of any type that is bound under
the key and reported once. Nothing else is bound but the prototype of a function that had none. -/
structure Fabricates (owner : ValueId) (isFunction : Bool) (key : Text) (before after : Store δ) :
    Prop where
  known : owner < before.nextId
  missing : before.Lacks owner isFunction key
  value : after.value? before.nextId = some { type := ModelType.any }
  prototype : before.LacksPrototype owner isFunction →
    (after.value? (before.nextId + 1)).map (·.type) = some ModelType.object
  parameter : ∀ id name, after.parameter? id name = before.parameter? id name
  property : ∀ id name, after.property? id name =
    if id = before.holder owner isFunction ∧ name = key then some before.nextId
    else if before.LacksPrototype owner isFunction ∧ id = owner ∧ name = "prototype".toList then
      some (before.nextId + 1)
    else before.property? id name
  type : ∀ id, id < before.nextId →
    (after.value? id).map (·.type) = (before.value? id).map (·.type)
  events : after.events = before.events ++ [.fabricatedProperty key isFunction]

variable {store : Store δ} {owner : ValueId} {isFunction : Bool} {key : Text}

@[simp] theorem property?_report (store : Store δ) (event : Event) (id : ValueId) (name : Text) :
    (store.report event).property? id name = store.property? id name := rfl

@[simp] theorem parameter?_report (store : Store δ) (event : Event) (id : ValueId) (name : Text) :
    (store.report event).parameter? id name = store.parameter? id name := rfl

theorem value?_setProperty_of_ne (store : Store δ) {id holder : ValueId} (other : id ≠ holder)
    (name : Text) (target : ValueId) :
    (store.setProperty holder name target).value? id = store.value? id := by
  rw [setProperty, value?_update, if_neg other]

theorem type_setProperty (store : Store δ) (id holder : ValueId) (name : Text) (target : ValueId) :
    ((store.setProperty holder name target).value? id).map (·.type) =
      (store.value? id).map (·.type) :=
  store.map_value?_update _ _ fun _ => rfl

/-- A missing key is bound on a value that exists. -/
theorem fabricates_of_holder (known : owner < store.nextId)
    (missing : store.Lacks owner isFunction key)
    (complete : ¬ store.LacksPrototype owner isFunction)
    (present : store.holder owner isFunction < store.nextId) :
    Fabricates owner isFunction key store
      (((store.add { type := ModelType.any }).setProperty (store.holder owner isFunction) key
        store.nextId).report (.fabricatedProperty key isFunction)) where
  known := known
  missing := missing
  value := by
    rw [value?_report, value?_setProperty_of_ne _ (Nat.ne_of_gt present), value?_add, if_pos rfl]
  prototype lacks := absurd lacks complete
  parameter id name := by
    rw [parameter?_report, parameter?_setProperty, parameter?_add]
    rfl
  property id name := by
    have grown : store.holder owner isFunction < store.nextId + 1 :=
      Nat.lt_of_lt_of_le present (Nat.le_succ _)
    rw [property?_report, property?_setProperty, property?_add, nextId_add]
    · simp only [grown, and_true, complete, false_and, if_false]
    · rfl
  type id old := by rw [value?_report, type_setProperty, store.value?_add_of_lt old]
  events := rfl

/-- A missing key is bound on a prototype that is made for it. -/
theorem fabricates_of_lacksPrototype (known : owner < store.nextId)
    (missing : store.Lacks owner isFunction key) (lacks : store.LacksPrototype owner isFunction) :
    Fabricates owner isFunction key store
      (((((store.add { type := ModelType.any }).add { type := ModelType.object }).setProperty owner
        "prototype".toList (store.nextId + 1)).setProperty (store.nextId + 1) key
          store.nextId).report (.fabricatedProperty key isFunction)) where
  known := known
  missing := missing
  value := by
    rw [value?_report, value?_setProperty_of_ne _ (Nat.ne_of_lt (Nat.lt_succ_self _)),
      value?_setProperty_of_ne _ (Nat.ne_of_gt known), value?_add_of_lt, value?_add, if_pos rfl]
    simp
  prototype _ := by
    rw [value?_report, type_setProperty, type_setProperty, value?_add, nextId_add, if_pos rfl]
    rfl
  parameter id name := by
    rw [parameter?_report, parameter?_setProperty, parameter?_setProperty, parameter?_add,
      parameter?_add]
    all_goals rfl
  property id name := by
    have home : store.holder owner isFunction = store.nextId + 1 := by
      rw [holder, if_pos lacks.1, lacks.2, Option.getD_none]
    have present : owner < store.nextId + 1 + 1 := Nat.lt_of_lt_of_le known (Nat.le_add_right _ 2)
    rw [property?_report, property?_setProperty, property?_setProperty, property?_add,
      property?_add, nextId_setProperty, nextId_add, nextId_add, home]
    · simp only [present, Nat.lt_succ_self, and_true, lacks, true_and]
    · rfl
    · rfl
  type id old := by
    rw [value?_report, type_setProperty, type_setProperty, value?_add_of_lt, value?_add_of_lt _ old]
    exact Nat.lt_of_lt_of_le old (by simp)
  events := rfl

theorem fabricates_fabricate (closed : store.IsClosed) (known : owner < store.nextId)
    (missing : store.Lacks owner isFunction key) :
    Fabricates owner isFunction key store
      (store.fabricate owner isFunction key ModelType.any).2 := by
  cases isFunction with
  | false =>
    exact fabricates_of_holder known missing (fun lacks => Bool.noConfusion lacks.1) known
  | true =>
    have found := store.property?_add (rfl : ({ type := ModelType.any } : Value δ).properties = {})
      owner "prototype".toList
    have made : (store.fabricate owner true key ModelType.any).2 =
        (((store.add { type := ModelType.any }).ensurePrototype owner).2.setProperty
          ((store.add { type := ModelType.any }).ensurePrototype owner).1 key store.nextId).report
            (.fabricatedProperty key true) := rfl
    rw [made, ensurePrototype, found]
    cases prototype : store.property? owner "prototype".toList with
    | some holder =>
      have home : store.holder owner true = holder := by
        rw [Store.holder, if_pos rfl, prototype, Option.getD_some]
      have complete : ¬ store.LacksPrototype owner true := fun lacks => by
        rw [lacks.2] at prototype
        cases prototype
      have bound := fabricates_of_holder known missing complete (home ▸ closed owner _ _ prototype)
      rwa [home] at bound
    | none =>
      have bound := fabricates_of_lacksPrototype known missing ⟨rfl, prototype⟩
      rwa [← nextId_add store { type := ModelType.any }] at bound

/-- What holds the values that are made: an object itself, and the prototype of a function. -/
def Holds (store : Store δ) (owner : ValueId) (isFunction : Bool) (id : ValueId) : Prop :=
  if isFunction then store.property? owner "prototype".toList = some id else id = owner

/-- The graph has grown by what the keys of a comment made, each key with the value that was made
for it: these values are reported, in order, and bound under their keys, and the only other property
that is new is the prototype of a function that had none. -/
structure GrowsBy (owner : ValueId) (isFunction : Bool) (outcomes : List (Text × Option ValueId))
    (before after : Store δ) : Prop where
  reports : after.fabrications = before.fabrications ++
    outcomes.filterMap fun outcome => outcome.2.map fun _ => (outcome.1, isFunction)
  made : ∀ key id, (key, some id) ∈ outcomes →
    (after.value? id).map (·.type) = some ModelType.any ∧
      ∃ holder, after.Holds owner isFunction holder ∧ after.property? holder key = some id
  property : ∀ id name target, after.property? id name = some target →
    before.property? id name = some target ∨
      ((name, some target) ∈ outcomes ∧ after.Holds owner isFunction id) ∨
      (before.LacksPrototype owner isFunction ∧ id = owner ∧ name = "prototype".toList)

namespace Fabricates

variable {before after : Store δ} (made : Fabricates owner isFunction key before after)
include made

theorem size : before.nextId < after.nextId :=
  after.lt_nextId made.value

theorem isClosed (closed : before.IsClosed) : after.IsClosed := by
  intro id name target found
  rw [made.property] at found
  split_ifs at found with bound lacks
  · cases found
    exact made.size
  · cases found
    obtain ⟨prototype, present, _⟩ := Option.map_eq_some_iff.mp (made.prototype lacks.1)
    exact after.lt_nextId present
  · exact Nat.lt_trans (closed id name target found) made.size

/-- Properties under other names stay, and so do all properties of the owner itself. -/
theorem keeps {id target : ValueId} {name : Text} (found : before.property? id name = some target)
    (spared : name ≠ key ∨ id = owner) : after.property? id name = some target := by
  rw [made.property, if_neg, if_neg, found]
  · rintro ⟨lacks, rfl, rfl⟩
    rw [lacks.2] at found
    cases found
  · rintro ⟨home, rfl⟩
    rcases spared with other | rfl
    · exact other rfl
    · rw [made.missing.2] at found
      cases found

/-- The key is bound on what holds it from then on. -/
theorem holds : after.Holds owner isFunction (before.holder owner isFunction) ∧
    after.property? (before.holder owner isFunction) key = some before.nextId := by
  refine ⟨?_, by rw [made.property, if_pos ⟨rfl, rfl⟩]⟩
  unfold Holds holder
  cases isFunction with
  | false => rfl
  | true =>
    simp only [if_true]
    cases prototype : before.property? owner "prototype".toList with
    | some found => exact made.keeps prototype (.inr rfl)
    | none =>
      have apart : owner ≠ before.nextId + 1 := Nat.ne_of_lt (Nat.lt_succ_of_lt made.known)
      rw [made.property, if_neg, if_pos ⟨⟨rfl, prototype⟩, rfl, rfl⟩, Option.getD_none]
      rintro ⟨home, _⟩
      rw [holder, if_pos rfl, prototype, Option.getD_none] at home
      exact apart home

theorem fabrications : after.fabrications = before.fabrications ++ [(key, isFunction)] := by
  simp [Store.fabrications, made.events, Event.fabricated?]

end Fabricates

end Store

namespace Binding

open Store

variable (evaluate : Evaluator δ)

/-- Completing values leaves no dangling properties. -/
def Evaluator.KeepsClosed : Prop :=
  ∀ id (store : Store δ), store.IsClosed →
    ((evaluate id).run store).2.IsClosed ∧ store.nextId ≤ ((evaluate id).run store).2.nextId

/-- Completing values binds nothing and makes nothing. -/
def Evaluator.IsQuiet : Prop :=
  ∀ id (store : Store δ), store.SameEntries ((evaluate id).run store).2

/-- No property is bound, unless by completing one value. -/
def Completes (before after : Store δ) : Prop :=
  before.SameEntries after ∨ ∃ id, ((evaluate id).run before).2.SameEntries after

/-- What becomes of the keys of a body comment, one after the other: each is known in the graph as
it is then, and nothing is made; or it is missing there, and the value that comes with it is made.
After each key at most one value is completed, by resolving the key's type. -/
inductive Course (owner : ValueId) (isFunction : Bool) :
    List (Text × Option ValueId) → Store δ → Store δ → Prop
  | done {before after : Store δ} (rest : before.SameEntries after) :
      Course owner isFunction [] before after
  | known {before middle after : Store δ} {key : Text} {outcomes : List (Text × Option ValueId)}
      (present : ¬ before.Lacks owner isFunction key) (completes : Completes evaluate before middle)
      (rest : Course owner isFunction outcomes middle after) :
      Course owner isFunction ((key, none) :: outcomes) before after
  | made {before grown middle after : Store δ} {key : Text}
      {outcomes : List (Text × Option ValueId)}
      (fabricates : Fabricates owner isFunction key before grown)
      (completes : Completes evaluate grown middle)
      (rest : Course owner isFunction outcomes middle after) :
      Course owner isFunction ((key, some before.nextId) :: outcomes) before after

variable {evaluate} {owner : ValueId} {isFunction : Bool} {before after store : Store δ}
  {outcomes : List (Text × Option ValueId)}

theorem Completes.isClosed (completes : Completes evaluate before after)
    (closing : evaluate.KeepsClosed) (closed : before.IsClosed) :
    after.IsClosed ∧ before.nextId ≤ after.nextId := by
  rcases completes with same | ⟨id, same⟩
  · exact ⟨same.isClosed closed, same.size⟩
  · obtain ⟨still, size⟩ := closing id before closed
    exact ⟨same.isClosed still, Nat.le_trans size same.size⟩

theorem Completes.sameEntries (completes : Completes evaluate before after)
    (quiet : evaluate.IsQuiet) : before.SameEntries after := by
  rcases completes with same | ⟨id, same⟩
  · exact same
  · exact (quiet id before).trans same

/-- Resolving the type of a key and merging its documentation completes at most one value. -/
theorem completes_bind (store : Store δ) (scope : ScopeId) (type : Text) (target : ValueId)
    (fragment : TypeNote → Fragment) :
    let typed := (resolve (δ := δ) evaluate scope type).run store
    Completes evaluate store (typed.2.mergeInto target (fragment typed.1)) := by
  intro typed
  have merged := SameEntries.mergeInto typed.2 target (fragment typed.1)
  have run : typed = _ := run_resolve evaluate store scope type
  split at run
  · rw [run] at merged ⊢
    exact .inl merged
  · split at run
    · rw [run] at merged ⊢
      exact .inl ((SameEntries.report store rfl).trans merged)
    · rw [run] at merged ⊢
      exact .inl merged
    · rw [run] at merged ⊢
      exact .inr ⟨_, merged⟩

variable (site : Site)

/-- The keys of a comment take their course, and so does what follows them. -/
theorem course_boundEntries (closing : evaluate.KeepsClosed) (doc : Comment.CommentDoc)
    (untyped : fabricatedType doc = ModelType.any) (entries : List (Text × Comment.EntryDoc))
    (closed : store.IsClosed) (known : owner < store.nextId)
    (rest : (entries.foldl (fun store => boundEntry evaluate site store owner isFunction doc)
      store).SameEntries after) :
    ∃ outcomes, outcomes.map (·.1) = entries.map (·.1) ∧
      Course evaluate owner isFunction outcomes store after := by
  induction entries generalizing store with
  | nil => exact ⟨[], rfl, .done rest⟩
  | cons entry entries ih =>
    have bound {found : ValueId} {grown : Store δ}
        (target : (target (m := StateM (Store δ)) δ owner isFunction doc entry.1).run store =
          (found, grown)) :
        Completes evaluate grown (boundEntry evaluate site store owner isFunction doc entry) := by
      rw [boundEntry, target]
      exact completes_bind grown site.scope entry.2.type found (.ofEntry entry.2)
    cases documented : store.documented? owner isFunction entry.1 with
    | some found =>
      have target := run_target store owner isFunction doc entry.1
      rw [documented] at target
      have completes := bound target
      obtain ⟨still, size⟩ := completes.isClosed closing closed
      obtain ⟨outcomes, keys, course⟩ := ih still (Nat.lt_of_lt_of_le known size) rest
      refine ⟨(entry.1, none) :: outcomes, congrArg (entry.1 :: ·) keys, .known ?_ completes course⟩
      rw [← documented?_eq_none_iff, documented]
      exact Option.some_ne_none found
    | none =>
      have target := run_target store owner isFunction doc entry.1
      rw [documented, untyped] at target
      have made := fabricates_fabricate closed known ((documented?_eq_none_iff store).mp documented)
      have completes := bound target
      obtain ⟨still, size⟩ := completes.isClosed closing (made.isClosed closed)
      have later := Nat.lt_of_lt_of_le (Nat.lt_trans known made.size) size
      obtain ⟨outcomes, keys, course⟩ := ih still later rest
      exact ⟨(entry.1, some store.nextId) :: outcomes, congrArg (entry.1 :: ·) keys,
        .made made completes course⟩

section

variable (course : Course evaluate owner isFunction outcomes before after)
  (quiet : evaluate.IsQuiet)
include course quiet

theorem Course.size : before.nextId ≤ after.nextId := by
  induction course with
  | done rest => exact rest.size
  | known _ completes _ ih => exact Nat.le_trans (completes.sameEntries quiet).size ih
  | made fabricates completes _ ih =>
    exact Nat.le_trans (Nat.le_of_lt fabricates.size)
      (Nat.le_trans (completes.sameEntries quiet).size ih)

theorem Course.type {id : ValueId} (old : id < before.nextId) :
    (after.value? id).map (·.type) = (before.value? id).map (·.type) := by
  induction course with
  | done rest => exact rest.type id old
  | known _ completes _ ih =>
    have same := completes.sameEntries quiet
    exact (ih (Nat.lt_of_lt_of_le old same.size)).trans (same.type id old)
  | made fabricates completes _ ih =>
    have same := completes.sameEntries quiet
    have grown := Nat.lt_trans old fabricates.size
    exact (ih (Nat.lt_of_lt_of_le grown same.size)).trans
      ((same.type id grown).trans (fabricates.type id old))

/-- Properties under other names stay, and so do all properties of the owner itself. -/
theorem Course.keeps {id target : ValueId} {name : Text}
    (found : before.property? id name = some target)
    (spared : name ∉ outcomes.map (·.1) ∨ id = owner) : after.property? id name = some target := by
  induction course with
  | done rest => rw [rest.property, found]
  | known _ completes _ ih =>
    refine ih (((completes.sameEntries quiet).property id name).trans found) ?_
    exact spared.imp_left fun other mem => other (List.mem_cons_of_mem _ mem)
  | made fabricates completes _ ih =>
    have kept := fabricates.keeps found
      (spared.imp_left fun other same => other (same ▸ List.mem_cons_self))
    refine ih (((completes.sameEntries quiet).property id name).trans kept) ?_
    exact spared.imp_left fun other mem => other (List.mem_cons_of_mem _ mem)

/-- What holds the values of earlier keys holds those of later keys, too. -/
theorem Course.holds {id : ValueId} (found : before.Holds owner isFunction id) :
    after.Holds owner isFunction id := by
  cases isFunction with
  | false => exact found
  | true => exact course.keeps quiet found (.inr rfl)

theorem Course.growsBy (distinct : (outcomes.map (·.1)).Nodup) :
    before.GrowsBy owner isFunction outcomes after := by
  induction course with
  | done rest =>
    refine ⟨by simp [rest.reports], fun _ _ mem => absurd mem List.not_mem_nil, ?_⟩
    intro id name target found
    exact .inl ((rest.property id name).symm.trans found)
  | @known before middle after key outcomes present completes rest ih =>
    have same := completes.sameEntries quiet
    obtain ⟨reports, made, property⟩ := ih (List.nodup_cons.mp distinct).2
    refine ⟨by simp [reports, same.reports], fun key id mem => ?_, fun id name target found => ?_⟩
    · exact made key id ((List.mem_cons.mp mem).resolve_left fun same => nomatch same)
    · rcases property id name target found with old | ⟨mem, held⟩ | ⟨lacks, here⟩
      · exact .inl ((same.property id name).symm.trans old)
      · exact .inr (.inl ⟨List.mem_cons_of_mem _ mem, held⟩)
      · exact .inr (.inr ⟨⟨lacks.1, (same.property _ _).symm.trans lacks.2⟩, here⟩)
  | @made before grown middle after key outcomes fabricates completes rest ih =>
    have same := completes.sameEntries quiet
    obtain ⟨fresh, distinct⟩ := List.nodup_cons.mp distinct
    obtain ⟨reports, made, property⟩ := ih distinct
    obtain ⟨home, bound⟩ := fabricates.holds
    have held : middle.Holds owner isFunction (before.holder owner isFunction) := by
      unfold Holds at home ⊢
      cases isFunction with
      | false => exact home
      | true => exact (same.property _ _).trans home
    refine ⟨by simp [reports, same.reports, fabricates.fabrications], fun name id mem => ?_,
      fun id name target found => ?_⟩
    · rcases List.mem_cons.mp mem with here | later
      · cases here
        refine ⟨?_, _, rest.holds quiet held, rest.keeps quiet ((same.property _ _).trans bound)
          (.inl fresh)⟩
        rw [rest.type quiet (Nat.lt_of_lt_of_le fabricates.size same.size),
          same.type _ fabricates.size, fabricates.value]
        rfl
      · exact made name id later
    · rcases property id name target found with old | ⟨mem, held⟩ | ⟨lacks, here⟩
      · rw [same.property, fabricates.property] at old
        split_ifs at old with own first
        · cases old
          obtain ⟨rfl, rfl⟩ := own
          exact .inr (.inl ⟨List.mem_cons_self, rest.holds quiet held⟩)
        · exact .inr (.inr first)
        · exact .inl old
      · exact .inr (.inl ⟨List.mem_cons_of_mem _ mem, held⟩)
      · -- once a key was made for a function, the function has a prototype
        exfalso
        obtain ⟨rfl, none⟩ := lacks
        unfold Holds at held
        rw [if_pos rfl, none] at held
        cases held

end

theorem sameEntries_bindReturn (store : Store δ) (owner : ValueId) (doc : Comment.ReturnDoc) :
    store.SameEntries ((bindReturn (m := StateM (Store δ)) (δ := δ) owner doc).run store).2 := by
  rw [run_bindReturn]
  split
  · have ensured := SameEntries.ensureReturn store owner doc.type
    generalize store.ensureReturn owner doc.type = made at ensured ⊢
    rcases made with ⟨_ | id, after⟩
    · exact ensured
    · exact ensured.trans (.mergeInto after id _)
  · exact .refl store

/-- When a function or an object is documented by its body comment, the keys of the comment take
their course in their order. No comment has a type of its own, so what is made for a missing key
always has any type. And unless completing values makes or binds something itself, all that is new
among the properties is what was made, and the prototype of a function that had none. -/
theorem document_fabricates (closing : evaluate.KeepsClosed) (closed : store.IsClosed)
    (known : owner < store.nextId) {node : Node} {comment : Text}
    (commented : site.HasBodyComment node comment) (context : Option NodeKind) :
    let after := ((document (δ := δ) evaluate site node owner context).run store).2
    (Comment.read comment none).type = [] ∧
      ∃ outcomes, outcomes.map (·.1) = (Comment.read comment none).entries.names ∧
        Course evaluate owner (node.kind = .function) outcomes store after ∧
        (evaluate.IsQuiet → store.GrowsBy owner (node.kind = .function) outcomes after) := by
  intro after
  have run : after = _ :=
    congrArg Prod.snd (run_document (δ := δ) evaluate site store node owner context)
  rw [fragment_of_literal evaluate site commented.body, run_bodyFragment, commented.found] at run
  simp only [run_bindEntries] at run
  have rest : (((Comment.read comment none).entries.entries.foldl (fun store =>
      boundEntry evaluate site store owner (node.kind = .function) (Comment.read comment none))
        store)).SameEntries after :=
    run ▸ (sameEntries_bindReturn _ owner _).trans (.mergeInto _ owner _)
  obtain ⟨outcomes, keys, course⟩ := course_boundEntries site closing (Comment.read comment none)
    (fabricatedType_read comment none) (Comment.read comment none).entries.entries closed known rest
  refine ⟨Comment.type_read comment none, outcomes, keys, course, fun quiet => ?_⟩
  exact course.growsBy quiet (keys ▸ Comment.nodup_names_read comment)

theorem keepsClosed_of_isQuiet (quiet : evaluate.IsQuiet) : evaluate.KeepsClosed :=
  fun id store closed => ⟨(quiet id store).isClosed closed, (quiet id store).size⟩

theorem isQuiet_completing : Evaluator.IsQuiet completing := by
  intro id store
  have cleared : store.SameEntries (store.update id fun value => { value with pending := none }) :=
    .update store id (fun _ => rfl) (fun _ => rfl) fun _ => rfl
  exact cleared.trans (.report _ rfl)

/-- The function has a parameter `a`, so a value is made for `x` alone. The type of `a` completes a
value on the way. -/
theorem document_fabricates_prototype :
    let after := ((document (δ := Nat) completing prototypeSite prototypeNode 0 none).run
      prototypeStore).2
    Evaluator.KeepsClosed completing ∧ prototypeStore.IsClosed ∧ 0 < prototypeStore.nextId ∧
      prototypeSite.HasBodyComment prototypeNode " a: N\n x: String".toList ∧
      ∃ outcomes, outcomes.map (·.1) = ["a".toList, "x".toList] ∧
        Course completing 0 true outcomes prototypeStore after ∧
        prototypeStore.GrowsBy 0 true outcomes after := by
  intro after
  have closing := keepsClosed_of_isQuiet isQuiet_completing
  have closed : prototypeStore.IsClosed := isClosed_of_entries (by decide)
  have commented : prototypeSite.HasBodyComment prototypeNode " a: N\n x: String".toList :=
    ⟨.inl rfl, by decide +kernel⟩
  obtain ⟨_, outcomes, keys, course, growsBy⟩ :=
    document_fabricates prototypeSite closing closed (by decide : 0 < prototypeStore.nextId)
      commented none
  refine ⟨closing, closed, by decide, commented, outcomes, ?_, course, growsBy isQuiet_completing⟩
  rw [keys]
  decide +kernel

end Binding

end CommentDocs
