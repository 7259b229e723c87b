import CommentDocs.Proofs.Binding.Annotations
import CommentDocs.Proofs.Session.Mirroring

/-!
# Completions run once, and before their value is linked

Completions may evaluate each other and may link any value, their own too, so evaluation is
entered again before it is over. That a value counts as complete from the start settles it: from
any graph, with any steps and however deep the completions nest, the completion of a value is
started at most once, and it has been started before an annotation is replaced by the value.

The moment of a link is the one at which an annotation comes to a value, by
`Noting.resolve_linking`. So what holds of such moments holds of what `resolve` answers: nothing is
pending on a value that it answers with. An annotation that stays text evaluates nothing.
-/

namespace CommentDocs.Session

open Binding Chronicle

theorem count_startedEvaluation (events : List Event) (id : ValueId) :
    events.count (.startedEvaluation id) = (events.filterMap Event.started?).count id := by
  rw [List.count_filterMap, List.count_eq_countP]
  refine List.countP_congr fun event _ => ?_
  cases event <;> simp [Event.started?]

theorem count_started (moments : List Moment) (id : ValueId) :
    moments.count (.started id) = (moments.filterMap Moment.started?).count id := by
  rw [List.count_filterMap, List.count_eq_countP]
  refine List.countP_congr fun moment _ => ?_
  cases moment <;> simp [Moment.started?]

section

variable (fuel : Nat) (chronicle : Chronicle) (step : Step)

/-- What a step reports to be started is what passed in it. -/
theorem report_starts :
    ∃ passed, (Noting.report fuel chronicle step).2.moments = chronicle.moments ++ passed ∧
      (report fuel chronicle.state step).events.filterMap Event.started? =
        passed.filterMap Moment.started? := by
  obtain ⟨passed, moments, starts⟩ := (advances_report fuel chronicle step).starts
  rw [← report_eq]
  exact ⟨passed, moments, starts⟩

theorem Chronicle.Accounted.report {chronicle : Chronicle} (accounted : Accounted chronicle) :
    Accounted (Noting.report fuel chronicle step).2 := by
  have unreported : Accounted chronicle.unreported :=
    ⟨accounted.pending, accounted.known, accounted.once, accounted.ordered⟩
  exact unreported.advances (advances_report fuel chronicle step)

theorem Chronicle.Accounted.reports {chronicle : Chronicle} (accounted : Accounted chronicle)
    (steps : List Step) : Accounted (Noting.reports fuel chronicle steps).2 := by
  induction steps generalizing chronicle with
  | nil => exact accounted
  | cons step rest ih => exact ih (accounted.report fuel step)

theorem reports_starts (steps : List Step) :
    ∃ passed, (Noting.reports fuel chronicle steps).2.moments = chronicle.moments ++ passed ∧
      ((reports fuel chronicle.state steps).flatMap (·.events)).filterMap Event.started? =
        passed.filterMap Moment.started? := by
  induction steps generalizing chronicle with
  | nil => exact ⟨[], (List.append_nil _).symm, rfl⟩
  | cons step rest ih =>
    obtain ⟨passed, moments, starts⟩ := report_starts fuel chronicle step
    obtain ⟨later, onward, others⟩ := ih (Noting.report fuel chronicle step).2
    refine ⟨passed ++ later, onward.trans (by rw [moments, List.append_assoc]), ?_⟩
    rw [report_state] at others
    rw [reports, List.flatMap_cons, List.filterMap_append, List.filterMap_append, ← others,
      ← starts]

end

section

variable (evaluate : ValueId → Run Unit) {state : State} {scope : ScopeId} {type : Text}

theorem run_store_bind {α : Type} (next : Store Completion → Run α) :
    (getThe (Store Completion) >>= next).run.run state = (next state.store).run.run state := rfl

theorem run_resolve_text :
    (resolve (δ := Completion) evaluate scope type).run.run state =
      if type = [] then (.ok (.text []), state)
      else
        match resolution state.store scope type with
        | .unresolved =>
          (.ok (.text type), { state with store := state.store.report (.unresolvedType type) })
        | .moduleId id => (.ok (.text id), state)
        | .value id => (evaluate id >>= fun _ => pure (TypeNote.value id)).run.run state := by
  unfold resolve
  split
  · rfl
  · rw [run_store_bind]
    cases resolution state.store scope type <;> rfl

variable {id : ValueId} {value : Value Completion}

theorem ne_nil_of_reach (reached : state.store.reach? scope (TypeExpr.path type) = some id) :
    type ≠ [] := by
  rintro rfl
  cases reached

/-- A value of undefined type, or without a file, is not evaluated: the text stays. -/
theorem resolve_unworthy (reached : state.store.reach? scope (TypeExpr.path type) = some id)
    (found : state.store.value? id = some value)
    (unworthy : value.type = ModelType.undefined ∨ value.origin.isKnown = false) :
    (resolve (δ := Completion) evaluate scope type).run.run state =
      (.ok (.text type), { state with store := state.store.report (.unresolvedType type) }) := by
  have stays : resolution state.store scope type = .unresolved := by
    refine resolution_eq_unresolved fun other same => ?_
    rw [reached, Option.bind_some, found] at same
    cases same
    exact unworthy
  rw [run_resolve_text, if_neg (ne_nil_of_reach reached), stays]

/-- The name of a module is not evaluated: the text becomes the module's identifier. -/
theorem resolve_module (reached : state.store.reach? scope (TypeExpr.path type) = some id)
    (found : state.store.value? id = some value) (typed : value.type ≠ ModelType.undefined)
    (known : value.origin.isKnown = true) {module : Text}
    (related : value.relatedModule = some module) :
    (resolve (δ := Completion) evaluate scope type).run.run state =
      (.ok (.text module), state) := by
  rw [run_resolve_text, if_neg (ne_nil_of_reach reached), resolution_eq_ofValue reached found,
    Resolution.ofValue_of_useful typed known, related]

/-- The name of any other value comes to that value, once it is evaluated. -/
theorem resolve_attaching (reached : state.store.reach? scope (TypeExpr.path type) = some id)
    (found : state.store.value? id = some value) (typed : value.type ≠ ModelType.undefined)
    (known : value.origin.isKnown = true) (unrelated : value.relatedModule = none) :
    (resolve (δ := Completion) evaluate scope type).run.run state =
      (evaluate id >>= fun _ => pure (TypeNote.value id)).run.run state := by
  rw [run_resolve_text, if_neg (ne_nil_of_reach reached), resolution_eq_ofValue reached found,
    Resolution.ofValue_of_useful typed known, unrelated]

end

section

variable {scope : ScopeId} {type : Text} {id : ValueId}

/-- Where an annotation comes to a value, the link is what is noted last. -/
theorem linked_of_resolve {evaluate : ValueId → Noting Unit} {chronicle after : Chronicle}
    (ran : (resolve (δ := Completion) (Noting.linking evaluate) scope type).run.run chronicle =
      (.ok (.value id), after)) :
    ∃ earlier, after.moments = earlier ++ [.linked id] := by
  rw [Noting.resolve_linking] at ran
  rcases first : (resolve (δ := Completion) evaluate scope type).run.run chronicle with
    ⟨fault | found, middle⟩
  · rw [run_bind_error _ first] at ran
    cases ran
  · rw [run_bind_ok _ first] at ran
    cases found with
    | text text => cases ran
    | datum datum => cases ran
    | value other =>
      cases ran
      exact ⟨middle.moments, rfl⟩

/-- Nothing is pending on a value that an annotation comes to, and if something was, its start is
reported on the way. -/
theorem settled_of_resolve {depth : Nat} {now after : State}
    (ran : (resolve (δ := Completion) (evaluate depth) scope type).run.run now =
      (.ok (.value id), after)) :
    after.store.pending? id = none ∧
      ∃ passed, after.store.starts = now.store.starts ++ passed ∧
        ((now.store.pending? id).isSome = true → id ∈ passed) := by
  obtain ⟨answer, state, advances⟩ :=
    mirroring.holds_resolve (covers_evaluate depth).linking (opening now) scope type
  rcases noted : (resolve (δ := Completion) (Noting.linking (Noting.evaluate depth)) scope
    type).run.run (opening now) with ⟨outcome, last⟩
  have same : (opening now).state = now := rfl
  rw [noted, same, ran] at answer state
  rw [noted] at advances
  cases answer
  cases state
  obtain ⟨earlier, links⟩ := linked_of_resolve noted
  obtain ⟨passed, moments, starts⟩ := advances.starts
  have accounted := (accounted_opening now).advances advances
  have started (deferred : .deferred id ∈ last.moments) : .started id ∈ last.moments := by
    rw [links]
    exact List.mem_append_left _ (accounted.ordered earlier id [] links deferred)
  refine ⟨?_, _, starts, fun pending => ?_⟩
  · rw [← Option.not_isSome_iff_eq_none, accounted.pending]
    rintro ⟨deferred, unstarted⟩
    exact unstarted (started deferred)
  · have deferred : Moment.deferred id ∈ (opening now).moments :=
      mem_opening_iff.mpr ⟨id, pending, rfl⟩
    have new : Moment.started id ∈ passed := by
      rcases List.mem_append.mp (moments ▸ started (moments ▸ List.mem_append_left _ deferred))
        with old | new
      · obtain ⟨other, _, same⟩ := mem_opening_iff.mp old
        cases same
      · exact new
    exact List.mem_filterMap.mpr ⟨.started id, new, rfl⟩

end

/-- However a session goes on from a state, keeping its chronicle changes nothing of it. Every
completion is started at most once; nothing is pending in the end but what was put off and not
started; and at every depth of nesting, a completion that was put off has been started before an
annotation is replaced by its value. A link is noted exactly where an annotation comes to a value;
at any depth nothing is then pending on the value, and its start has been reported if something
was. An annotation that names a value of undefined type, without a file or with a module is
replaced by text, whatever evaluation would do; one that names any other value comes to that
value after evaluating it. -/
theorem started_once_before_linked (fuel : Nat) (state : State) (steps : List Step) :
    let noted := Noting.reports fuel (.opening state) steps
    let events := (reports fuel state steps).flatMap (·.events)
    noted.1 = reports fuel state steps ∧
    noted.2.moments.filterMap Moment.started? = events.filterMap Event.started? ∧
    (∀ id, events.count (.startedEvaluation id) ≤ 1) ∧
    (∀ id, (noted.2.state.store.pending? id).isSome = true ↔
      .deferred id ∈ noted.2.moments ∧ .started id ∉ noted.2.moments) ∧
    (∀ earlier id later, noted.2.moments = earlier ++ .linked id :: later →
      .deferred id ∈ noted.2.moments → .started id ∈ earlier) ∧
    (∀ (evaluate : ValueId → Noting Unit) (scope : ScopeId) (type : Text),
      resolve (δ := Completion) (Noting.linking evaluate) scope type = do
        let found ← resolve (δ := Completion) evaluate scope type
        Noting.noteLink found
        return found) ∧
    (∀ (depth : Nat) (now after : State) (scope : ScopeId) (type : Text) (id : ValueId),
      (resolve (δ := Completion) (evaluate depth) scope type).run.run now =
        (.ok (.value id), after) →
      after.store.pending? id = none ∧
        ∃ passed, after.store.starts = now.store.starts ++ passed ∧
          ((now.store.pending? id).isSome = true → id ∈ passed)) ∧
    ∀ (evaluate : ValueId → Run Unit) (now : State) (scope : ScopeId) (type : Text) id value,
      now.store.reach? scope (TypeExpr.path type) = some id → now.store.value? id = some value →
      let resolved := (resolve (δ := Completion) evaluate scope type).run.run now
      (value.type = ModelType.undefined ∨ value.origin.isKnown = false →
        resolved =
          (.ok (.text type), { now with store := now.store.report (.unresolvedType type) })) ∧
      (value.type ≠ ModelType.undefined → value.origin.isKnown = true →
        (∀ module, value.relatedModule = some module → resolved = (.ok (.text module), now)) ∧
        (value.relatedModule = none →
          resolved = (evaluate id >>= fun _ => pure (TypeNote.value id)).run.run now)) := by
  intro noted events
  have accounted : Accounted noted.2 := (accounted_opening state).reports fuel steps
  obtain ⟨passed, moments, starts⟩ := reports_starts fuel (.opening state) steps
  have unstarted : (opening state).moments.filterMap Moment.started? = [] := by
    refine List.filterMap_eq_nil_iff.mpr fun moment listed => ?_
    obtain ⟨id, _, rfl⟩ := mem_opening_iff.mp listed
    rfl
  have same : noted.2.moments.filterMap Moment.started? = events.filterMap Event.started? := by
    rw [moments, List.filterMap_append, unstarted, List.nil_append]
    exact starts.symm
  refine ⟨reports_eq fuel _ steps, same, fun id => ?_, accounted.pending, accounted.ordered,
    Noting.resolve_linking, fun depth now after scope type id => settled_of_resolve, ?_⟩
  · rw [count_startedEvaluation, ← same, ← count_started]
    exact accounted.once id
  · intro evaluate now scope type id value reached found
    refine ⟨resolve_unworthy evaluate reached found, fun typed known => ⟨fun module related => ?_,
      fun unrelated => ?_⟩⟩
    · exact resolve_module evaluate reached found typed known related
    · exact resolve_attaching evaluate reached found typed known unrelated

/-- Two values whose completions evaluate and link each other. -/
def entangled : List Step :=
  [.scope "s".toList none,
   .value "a".toList ModelType.object none (.label "m.js".toList) none
     (some [.evaluate "b".toList, .resolve "a".toList "s".toList]),
   .value "b".toList ModelType.object none (.label "m.js".toList) none
     (some [.resolve "a".toList "s".toList]),
   .setVariable "s".toList "a".toList "a".toList,
   .resolve "a".toList "s".toList,
   .evaluate "b".toList]

/-- The first link, three evaluations deep, comes after both starts; and the first annotation that
is resolved comes to a value on which nothing is pending any more. -/
theorem started_once_before_linked_entangled :
    let noted := Noting.reports 2 (.opening {}) entangled
    let now := (Noting.reports 2 (.opening {}) (entangled.take 4)).2.state
    let resolved := (resolve (δ := Completion) (evaluate 2) 0 "a".toList).run.run now
    noted.2.moments = [.deferred 0, .deferred 1, .started 0, .started 1] ++
      .linked 0 :: [.linked 0, .linked 0] ∧
    (Moment.started 0 ∈ [Moment.deferred 0, .deferred 1, .started 0, .started 1]) ∧
    (now.store.pending? 0).isSome = true ∧ resolved.1 = .ok (.value 0) ∧
    resolved.2.store.pending? 0 = none := by
  have moments : (Noting.reports 2 (.opening {}) entangled).2.moments =
      [.deferred 0, .deferred 1, .started 0, .started 1] ++
        .linked 0 :: [.linked 0, .linked 0] := by
    decide +kernel
  have deferred : Moment.deferred 0 ∈ (Noting.reports 2 (.opening {}) entangled).2.moments := by
    rw [moments]
    exact List.mem_cons_self
  obtain ⟨-, -, -, -, ordered, -, settled, -⟩ := started_once_before_linked 2 {} entangled
  intro noted now resolved
  have pending : (now.store.pending? 0).isSome = true := by decide +kernel
  have answer : resolved.1 = .ok (.value 0) := by decide +kernel
  exact ⟨moments, ordered _ 0 _ moments deferred, pending, answer,
    (settled 2 now resolved.2 0 "a".toList 0 (Prod.ext answer rfl)).1⟩

end CommentDocs.Session
