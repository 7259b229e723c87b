import CommentDocs.Proofs.Session.Noting

/-!
# A chronicle changes nothing of a session

A session that keeps a chronicle answers what the plain session answers and leaves the same
state, and its chronicle only advances. That is a law, so it holds of every step once it holds
of completing a value. Completing is entered again by the steps that it performs, but with less
fuel, so there it follows by induction on the fuel: from its start on nothing is pending on the
value, whatever its steps do.
-/

namespace CommentDocs.Session

open Binding Chronicle

/-- A computation that keeps a chronicle does to the session what `plain` does. -/
structure Mirrors {α : Type} (chronicle : Chronicle) (noting : Noting α) (plain : Run α) :
    Prop where
  answer : (noting.run.run chronicle).1 = (plain.run.run chronicle.state).1
  state : (noting.run.run chronicle).2.state = (plain.run.run chronicle.state).2
  advances : chronicle.Advances (noting.run.run chronicle).2

theorem Mirrors.bind {α β : Type} {chronicle : Chronicle} {first : Noting α} {plain : Run α}
    {next : α → Noting β} {rest : α → Run β} (head : Mirrors chronicle first plain)
    (tail : ∀ a after, first.run.run chronicle = (.ok a, after) → Mirrors after (next a) (rest a)) :
    Mirrors chronicle (first >>= next) (plain >>= rest) := by
  obtain ⟨answer, state, advances⟩ := head
  rcases noted : first.run.run chronicle with ⟨fault | a, after⟩ <;>
    rcases ran : plain.run.run chronicle.state with ⟨other | b, last⟩ <;>
    rw [noted] at answer state advances <;> rw [ran] at answer state <;>
    cases answer <;> cases state
  · have whole := run_bind_error next noted
    have plainly := run_bind_error rest ran
    exact ⟨by rw [whole, plainly], by rw [whole, plainly], by rw [whole]; exact advances⟩
  · have whole := run_bind_ok next noted
    have plainly := run_bind_ok rest ran
    obtain ⟨answer, state, onward⟩ := tail a after noted
    rw [← whole] at answer state onward
    rw [← plainly] at answer state
    exact ⟨answer, state, advances.trans onward⟩

def mirroring : Law where
  Holds := Mirrors
  plainly quiet := ⟨rfl, rfl, .single (.quiet quiet.kept)⟩
  bind := Mirrors.bind

section

variable {noting : ValueId → Noting Unit} {plain : ValueId → Run Unit}

/-- An annotation is noted to be replaced after its value was completed. -/
theorem covers_of_settles (mirrors : ∀ chronicle id, Mirrors chronicle (noting id) (plain id))
    (settles : ∀ chronicle id after, (noting id).run.run chronicle = (.ok (), after) →
      after.state.store.pending? id = none) : mirroring.Covers noting plain := by
  refine ⟨mirrors, fun chronicle id known => ?_⟩
  have noted : Mirrors chronicle (Noting.linking noting id) (plain id >>= fun _ => pure ()) := by
    refine (mirrors chronicle id).bind fun _ after ran => ?_
    have advances := (mirrors chronicle id).advances
    rw [ran] at advances
    have there := Nat.lt_of_lt_of_le known advances.nextId_le
    exact ⟨rfl, rfl, .single (.linked id there (settles chronicle id after ran))⟩
  rwa [bind_pure_unit] at noted

variable (covers : mirroring.Covers noting plain)

include covers

theorem mirrors_perform (chronicle : Chronicle) (step : Step) :
    Mirrors chronicle (Noting.perform noting step) (perform plain step) := by
  by_cases put : step.PutsOff
  · obtain ⟨handle, type, name, origin, module, steps, rfl⟩ := put
    exact ⟨rfl, rfl, .single (.deferred
      { type, name, origin, relatedModule := module, pending := some steps } rfl rfl)⟩
  · exact covers.perform chronicle put

theorem mirrors_performAll (chronicle : Chronicle) (steps : List Step) :
    Mirrors chronicle (Noting.performAll noting steps) (performAll plain steps) := by
  induction steps generalizing chronicle with
  | nil => exact mirroring.pure ()
  | cons step rest ih =>
    exact (mirrors_perform covers chronicle step).bind fun _ performed _ => ih performed

end

section

variable (chronicle : Chronicle) {id : ValueId}

theorem run_get_bind {α : Type} (next : Store Completion → Noting α) :
    (getThe (Store Completion) >>= next).run.run chronicle =
      (next chronicle.state.store).run.run chronicle := rfl

variable {chronicle}

theorem run_evaluate_settled (fuel : Nat) (settled : chronicle.state.store.pending? id = none) :
    (Noting.evaluate fuel id).run.run chronicle = (.ok (), chronicle) := by
  rw [Noting.evaluate, run_get_bind, settled]
  rfl

theorem run_evaluate_exhausted {steps : Completion}
    (pending : chronicle.state.store.pending? id = some steps) :
    (Noting.evaluate 0 id).run.run chronicle = (.error .endless, chronicle) := by
  rw [Noting.evaluate, run_get_bind, pending]
  rfl

/-- A completion that is pending is started, and then its steps are performed. -/
theorem run_evaluate_pending (fuel : Nat) {steps : Completion}
    (pending : chronicle.state.store.pending? id = some steps) :
    (Noting.evaluate (fuel + 1) id).run.run chronicle =
      (Noting.performAll (Noting.evaluate fuel) steps).run.run (chronicle.start id) := by
  rw [Noting.evaluate, run_get_bind, pending]
  rfl

end

/-- Performing steps with less fuel is mirrored. -/
def PerformsBelow (fuel : Nat) : Prop :=
  ∀ less, fuel = less + 1 → ∀ chronicle steps,
    Mirrors chronicle (Noting.performAll (Noting.evaluate less) steps)
      (performAll (evaluate less) steps)

namespace PerformsBelow

variable {fuel : Nat} (performs : PerformsBelow fuel)

include performs

theorem mirrors (chronicle : Chronicle) (id : ValueId) :
    Mirrors chronicle (Noting.evaluate fuel id) (evaluate fuel id) := by
  rw [Noting.evaluate, evaluate]
  refine mirroring.get_bind ?_
  have same : (chronicle.state.store.value? id).bind Value.pending =
    chronicle.state.store.pending? id := rfl
  rw [same]
  cases pending : chronicle.state.store.pending? id with
  | none => exact mirroring.pure ()
  | some steps =>
    cases fuel with
    | zero => exact ⟨rfl, rfl, .refl⟩
    | succ fuel =>
      have started : Mirrors chronicle (Noting.start id) (change (·.start id)) :=
        ⟨rfl, rfl, .single (.started id (Option.isSome_of_eq_some pending))⟩
      exact started.bind fun _ ready _ => performs fuel rfl ready steps

theorem settles (chronicle : Chronicle) (id : ValueId) (after : Chronicle)
    (ran : (Noting.evaluate fuel id).run.run chronicle = (.ok (), after)) :
    after.state.store.pending? id = none := by
  cases pending : chronicle.state.store.pending? id with
  | none =>
    rw [run_evaluate_settled fuel pending] at ran
    cases ran
    exact pending
  | some steps =>
    have known : id < chronicle.state.store.nextId :=
      chronicle.state.store.lt_nextId_of_pending? (Option.isSome_of_eq_some pending)
    cases fuel with
    | zero =>
      rw [run_evaluate_exhausted pending] at ran
      cases ran
    | succ fuel =>
      rw [run_evaluate_pending fuel pending] at ran
      have advances := (performs fuel rfl (chronicle.start id) steps).advances
      rw [ran] at advances
      refine advances.settled ?_ ?_
      · rwa [start_store, Store.nextId_start]
      · rw [start_store, Store.pending?_start, if_pos rfl]

end PerformsBelow

/-- Completing a value is mirrored, and so are the annotations that its value replaces. -/
theorem covers_evaluate (fuel : Nat) : mirroring.Covers (Noting.evaluate fuel) (evaluate fuel) := by
  have performs : PerformsBelow fuel := by
    induction fuel with
    | zero => exact fun less same => nomatch same
    | succ fuel ih =>
      intro less same chronicle steps
      cases same
      exact mirrors_performAll (covers_of_settles ih.mirrors ih.settles) chronicle steps
  exact covers_of_settles performs.mirrors performs.settles

section

variable (fuel : Nat) (chronicle : Chronicle) (step : Step)

/-- A step is reported as it is without the chronicle. -/
theorem report_eq : (Noting.report fuel chronicle step).1 = report fuel chronicle.state step := by
  have mirrors := mirrors_perform (covers_evaluate fuel) chronicle.unreported step
  unfold Noting.report report
  dsimp only
  rw [mirrors.answer, mirrors.state]
  rfl

theorem report_state :
    (Noting.report fuel chronicle step).2.state = (report fuel chronicle.state step).state :=
  (mirrors_perform (covers_evaluate fuel) chronicle.unreported step).state

theorem advances_report : chronicle.unreported.Advances (Noting.report fuel chronicle step).2 :=
  (mirrors_perform (covers_evaluate fuel) chronicle.unreported step).advances

/-- A session is reported as it is without the chronicle. -/
theorem reports_eq (steps : List Step) :
    (Noting.reports fuel chronicle steps).1 = reports fuel chronicle.state steps := by
  induction steps generalizing chronicle with
  | nil => rfl
  | cons step rest ih =>
    rw [Noting.reports, reports, ih, report_eq, report_state]

end

end CommentDocs.Session
