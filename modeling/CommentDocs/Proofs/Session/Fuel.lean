import CommentDocs.Proofs.Session.Mirroring
import Mathlib.Algebra.BigOperators.Group.Finset.Basic
import Mathlib.Algebra.BigOperators.Intervals

/-!
# A session has fuel enough

Completing a value performs steps that may complete other values, so evaluation takes fuel. The
load of a graph is what its pending completions may still need: their steps, and one for each
completion. A step adds no more to the load than it counts, since putting off a completion counts
its steps as well, and starting a completion takes its share from the load before the steps are
performed. So fuel for the load and the steps to come is never used up, and a session that has as
much fuel as it has steps comes to its end.
-/

namespace CommentDocs

namespace Session

/-- The fuel that a completion may need. -/
def demand : Option Completion → Nat
  | none => 0
  | some steps => Step.countAll steps + 1

end Session

open Session

namespace Store

/-- The fuel that the completions pending in a graph may need. -/
def load (store : Store Completion) : Nat :=
  ∑ id ∈ Finset.range store.nextId, demand (store.pending? id)

variable {store after : Store Completion}

theorem Quiet.load_eq (quiet : store.Quiet after) : after.load = store.load := by
  have same : ∀ id ∈ Finset.range after.nextId,
      demand (after.pending? id) = demand (store.pending? id) := fun id _ => by
    rw [quiet.pending]
  rw [load, load, Finset.sum_congr rfl same]
  refine (Finset.sum_subset (Finset.range_mono quiet.nextId) fun id _ new => ?_).symm
  have absent : store.value? id = none :=
    store.value?_eq_none_iff.mpr (Nat.le_of_not_lt fun old => new (Finset.mem_range.mpr old))
  rw [pending?, absent]
  rfl

theorem load_add (value : Value Completion) :
    (store.add value).load = store.load + demand value.pending := by
  rw [load, nextId_add, Finset.sum_range_succ, pending?_add, if_pos rfl]
  have old : ∀ id ∈ Finset.range store.nextId,
      demand ((store.add value).pending? id) = demand (store.pending? id) := by
    intro id known
    rw [pending?_add, if_neg (Nat.ne_of_lt (Finset.mem_range.mp known))]
  rw [Finset.sum_congr rfl old]
  rfl

/-- Starting a completion takes its demand from the load. -/
theorem load_start {id : ValueId} {steps : Completion} (pending : store.pending? id = some steps) :
    Step.countAll steps + 1 + (store.start id).load = store.load := by
  have known : id ∈ Finset.range store.nextId :=
    Finset.mem_range.mpr (store.lt_nextId_of_pending? (Option.isSome_of_eq_some pending))
  have others : ∀ other ∈ (Finset.range store.nextId).erase id,
      demand ((store.start id).pending? other) = demand (store.pending? other) := by
    intro other listed
    rw [pending?_start, if_neg (Finset.ne_of_mem_erase listed)]
  have started : (store.start id).load =
      ∑ other ∈ (Finset.range store.nextId).erase id, demand (store.pending? other) := by
    rw [load, nextId_start, ← Finset.add_sum_erase _ _ known, pending?_start, if_pos rfl,
      Finset.sum_congr rfl others]
    exact Nat.zero_add _
  have all := Finset.add_sum_erase _ (fun other => demand (store.pending? other)) known
  rw [started]
  rwa [pending] at all

end Store

namespace Session

open Chronicle

variable {α β : Type} {fuel cost more : Nat} {chronicle : Chronicle}

/-- With fuel for the load and for its cost, a computation does not give up, and it adds no more
than its cost to the load. -/
def Lasts (fuel cost : Nat) (chronicle : Chronicle) (noting : Noting α) : Prop :=
  chronicle.state.store.load + cost ≤ fuel →
    (noting.run.run chronicle).1 ≠ .error .endless ∧
      (noting.run.run chronicle).2.state.store.load ≤ chronicle.state.store.load + cost

theorem Lasts.mono {noting : Noting α} (lasts : Lasts fuel cost chronicle noting)
    (cheaper : cost ≤ more) : Lasts fuel more chronicle noting := by
  intro enough
  obtain ⟨ends, loaded⟩ := lasts (by omega)
  exact ⟨ends, by omega⟩

theorem Lasts.bind {first : Noting α} {next : α → Noting β} (head : Lasts fuel cost chronicle first)
    (tail : ∀ a after, first.run.run chronicle = (.ok a, after) → Lasts fuel more after (next a)) :
    Lasts fuel (cost + more) chronicle (first >>= next) := by
  intro enough
  obtain ⟨ends, loaded⟩ := head (by omega)
  rcases ran : first.run.run chronicle with ⟨fault | a, after⟩ <;> rw [ran] at ends loaded
  · rw [run_bind_error next ran]
    exact ⟨fun same => ends (congrArg _ (Except.error.inj same)), Nat.le_trans loaded (by omega)⟩
  · rw [run_bind_ok next ran]
    replace loaded : after.state.store.load ≤ chronicle.state.store.load + cost := loaded
    obtain ⟨ends, onward⟩ := tail a after ran (by omega)
    exact ⟨ends, by omega⟩

/-- Lasting without any cost is a law of runs that note. -/
def lasting (fuel : Nat) : Law where
  Holds chronicle noting _ := Lasts fuel 0 chronicle noting
  plainly quiet _ := ⟨quiet.ends, Nat.le_of_eq quiet.kept.load_eq⟩
  bind := Lasts.bind

section

variable {noting : ValueId → Noting Unit} {plain : ValueId → Run Unit}

theorem lasting_covers (lasts : ∀ chronicle id, Lasts fuel 0 chronicle (noting id)) :
    (lasting fuel).Covers noting plain := by
  refine ⟨lasts, fun chronicle id _ => ?_⟩
  have noted : ∀ after, Lasts fuel 0 after (Noting.note (.linked id)) := fun after _ =>
    ⟨nofun, Nat.le_refl _⟩
  exact (lasts chronicle id).bind fun _ after _ => noted after

theorem lasts_perform (covers : (lasting fuel).Covers noting plain) (chronicle : Chronicle)
    (step : Step) : Lasts fuel step.count chronicle (Noting.perform noting step) := by
  by_cases put : step.PutsOff
  · obtain ⟨handle, type, name, origin, module, steps, rfl⟩ := put
    intro _
    refine ⟨nofun, Nat.le_of_eq ?_⟩
    exact Store.load_add { type, name, origin, relatedModule := module, pending := some steps }
  · exact Lasts.mono (covers.perform chronicle put) (Nat.zero_le _)

theorem lasts_performAll (covers : (lasting fuel).Covers noting plain) (chronicle : Chronicle)
    (steps : List Step) :
    Lasts fuel (Step.countAll steps) chronicle (Noting.performAll noting steps) := by
  induction steps generalizing chronicle with
  | nil => exact (lasting fuel).pure ()
  | cons step rest ih =>
    exact (lasts_perform covers chronicle step).bind fun _ performed _ => ih performed

end

theorem lasts_evaluate_settled {id : ValueId} (settled : chronicle.state.store.pending? id = none) :
    Lasts fuel 0 chronicle (Noting.evaluate fuel id) := by
  intro _
  rw [run_evaluate_settled fuel settled]
  exact ⟨nofun, Nat.le_refl _⟩

theorem lasts_evaluate (fuel : Nat) (chronicle : Chronicle) (id : ValueId) :
    Lasts fuel 0 chronicle (Noting.evaluate fuel id) := by
  induction fuel generalizing chronicle id with
  | zero =>
    cases pending : chronicle.state.store.pending? id with
    | none => exact lasts_evaluate_settled pending
    | some steps =>
      -- Without fuel there is no load, so nothing is pending.
      intro enough
      have loaded := Store.load_start pending
      omega
  | succ fuel ih =>
    cases pending : chronicle.state.store.pending? id with
    | none => exact lasts_evaluate_settled pending
    | some steps =>
      intro enough
      rw [run_evaluate_pending fuel pending]
      have loaded := Store.load_start pending
      have covers : (lasting fuel).Covers (Noting.evaluate fuel) (evaluate fuel) :=
        lasting_covers ih
      have started :
          (chronicle.start id).state.store.load = (chronicle.state.store.start id).load :=
        rfl
      obtain ⟨ends, after⟩ := lasts_performAll covers (chronicle.start id) steps (by omega)
      exact ⟨ends, by omega⟩

/-- With fuel for the load and for the steps to come, no step gives up. -/
theorem reports_end (state : State) (steps : List Step)
    (enough : state.store.load + Step.countAll steps ≤ fuel) :
    ∀ report ∈ reports fuel state steps, report.outcome ≠ .error .endless := by
  induction steps generalizing state with
  | nil => exact fun report none => absurd none List.not_mem_nil
  | cons step rest ih =>
    have counted : Step.countAll (step :: rest) = step.count + Step.countAll rest := rfl
    have covers : (lasting fuel).Covers (Noting.evaluate fuel) (evaluate fuel) :=
      lasting_covers (lasts_evaluate fuel)
    have same : (opening state).unreported.state.store.load = state.store.load := rfl
    obtain ⟨ends, loaded⟩ := lasts_perform covers (opening state).unreported step (by omega)
    have done := report_eq fuel (opening state) step
    have left : _ = (report fuel state step).state := report_state fuel (opening state) step
    intro report listed
    rcases List.mem_cons.mp listed with rfl | later
    · exact done ▸ ends
    · refine ih _ ?_ report later
      rw [← left]
      have grown := Nat.add_le_add_right loaded (Step.countAll rest)
      exact Nat.le_trans grown (by omega)

/-- A session comes to its end: no step gives up for want of fuel. -/
theorem run_ends (steps : List Step) : ∀ report ∈ run steps, report.outcome ≠ .error .endless :=
  reports_end {} steps (Nat.le_of_eq (Nat.zero_add _))

end Session

end CommentDocs
