import CommentDocs.Proofs.Module.Itinerary

/-!
# Every node is documented once

Merging is not idempotent: tags and examples would show up twice if the same comment were bound
twice. A walk never does so. The steps of a walk are a tour, and two steps of a tour that
document one node as one kind would have their turn at the same stage of the same node; so would
two steps that evaluate a literal.
-/

namespace CommentDocs

open Binding Syntax

namespace ModuleDocs.Step

/-- The node that a step documents, and as what kind it does. -/
def documented? : Step → Option (Place × NodeKind)
  | .document here _ _ => some (here.place, here.node.kind)
  | _ => none

theorem exists_of_documented? {step : Step} {place : Place} {kind : NodeKind}
    (documented : step.documented? = some (place, kind)) :
    ∃ here value frame, step = .document here value frame ∧ here.place = place := by
  cases step <;> cases documented
  exact ⟨_, _, _, rfl, rfl⟩

def evaluated? : Step → Option Place
  | .create _ (some here) => some here.place
  | _ => none

end ModuleDocs.Step

namespace Walk

open ModuleDocs (Step)

section

variable {site : Site} {moduleId source : Text} {root : Tree} {steps : List Step}
variable {place : Place} {first last : Nat} {branches : Nat → Prop} {taken : List Taken}

theorem Placed.place_of_documented? {one : Taken} {node : Place × NodeKind}
    (placed : Placed site moduleId source root steps one)
    (documented : one.step.documented? = some node) :
    node.1 = one.place ∧ one.step.stage = if node.2 = .property then 5 else 3 := by
  obtain ⟨own, step⟩ := one
  cases step <;> cases documented
  exact ⟨placed.1, rfl⟩

theorem Placed.place_of_evaluated? {one : Taken} {node : Place}
    (placed : Placed site moduleId source root steps one)
    (evaluated : one.step.evaluated? = some node) : node = one.place ∧ one.step.stage = 0 := by
  obtain ⟨own, step⟩ := one
  rcases step with ⟨type, _ | here⟩ | _ | _ | _ | _ | _ | _ | _
  case create.some =>
    cases evaluated
    exact ⟨placed.1, rfl⟩
  all_goals cases evaluated

/-- No node is documented twice as the same kind. -/
theorem Tour.nodup_documented
    (tour : Tour site moduleId source root steps place first last branches taken) :
    ((taken.map (·.step)).filterMap Step.documented?).Nodup := by
  rw [List.filterMap_map]
  refine List.pairwise_filterMap.mpr (tour.inTurn.imp_of_mem ?_)
  rintro one other mem also turn node documented _ again rfl
  obtain ⟨here, stage⟩ := (tour.placed one mem).place_of_documented? documented
  obtain ⟨there, same⟩ := (tour.placed other also).place_of_documented? again
  have later := turn.stage (here.symm.trans there)
  rw [stage, same] at later
  split at later <;> omega

/-- No literal is evaluated twice. -/
theorem Tour.nodup_evaluated
    (tour : Tour site moduleId source root steps place first last branches taken) :
    ((taken.map (·.step)).filterMap Step.evaluated?).Nodup := by
  rw [List.filterMap_map]
  refine List.pairwise_filterMap.mpr (tour.inTurn.imp_of_mem ?_)
  rintro one other mem also turn node evaluated _ again rfl
  obtain ⟨here, stage⟩ := (tour.placed one mem).place_of_evaluated? evaluated
  obtain ⟨there, same⟩ := (tour.placed other also).place_of_evaluated? again
  have later := turn.stage (here.symm.trans there)
  omega

end

variable {site : Site} {moduleId : Text} {steps : List Step}

/-- What occurs once in a history occurs at one point. -/
theorem eq_of_nodup_filterMap {α β : Type} {history : List β} {f : β → Option α}
    (once : (history.filterMap f).Nodup) {before after : List β} {one other : β} {a : α}
    (first : before ++ [one] <+: history) (second : after ++ [other] <+: history)
    (here : f one = some a) (there : f other = some a) : before = after ∧ one = other := by
  have absent {before after : List β} {one other : β} (here : f one = some a)
      (there : f other = some a) (last : after ++ [other] <+: history) :
      ¬ before ++ [one] <+: after := by
    intro earlier
    obtain ⟨rest, rfl⟩ := last
    obtain ⟨between, rfl⟩ := earlier
    simp [here, there, List.nodup_append] at once
  rcases point_cases first second with earlier | same | later
  · exact absurd earlier (absent here there second)
  · exact same
  · exact absurd later (absent there here first)

/-- A literal that is evaluated once has one value. -/
theorem Created.eq_of_nodup (once : (steps.filterMap Step.evaluated?).Nodup)
    {here there : Occurrence} {value other : ValueId} (same : here.place = there.place)
    (one : Created site moduleId steps (some here) value)
    (another : Created site moduleId steps (some there) other) : value = other := by
  obtain ⟨before, type, left, rfl⟩ := one
  obtain ⟨after, kind, right, rfl⟩ := another
  have evaluated : Step.evaluated? (.create type (some here)) = some there.place :=
    congrArg some same
  rw [(eq_of_nodup_filterMap once left right evaluated rfl).1]

/-- No node is documented twice as the same kind. -/
theorem nodup_documented_ofSource (moduleId source : Text) (tree : Tree) :
    ((ofSource moduleId source tree).history.filterMap Step.documented?).Nodup := by
  obtain ⟨taken, steps, tour⟩ := tour_ofSource moduleId source tree
  rw [steps]
  exact tour.nodup_documented

/-- While a source is documented, no node is documented twice as the same kind, and no function
or object literal is evaluated to more than one value. The documentation is what the steps come
to, and the nodes that are documented and evaluated are nodes of the tree, known by their places. -/
theorem documented_once (moduleId source : Text) (tree : Tree) :
    ModuleDocs.ofSource moduleId source tree = ModuleDocs.ofSteps (siteOf source tree) moduleId
        (ofSource moduleId source tree).history ∧
      (∀ here value frame,
        Step.document here value frame ∈ (ofSource moduleId source tree).history →
          tree.Shows source here) ∧
      ((ofSource moduleId source tree).history.filterMap Step.documented?).Nodup ∧
      (∀ type here, Step.create type (some here) ∈ (ofSource moduleId source tree).history →
        tree.Shows source here) ∧
      ((ofSource moduleId source tree).history.filterMap Step.evaluated?).Nodup ∧
      ∀ here there value other, here.place = there.place →
        Created (siteOf source tree) moduleId (ofSource moduleId source tree).history (some here)
          value →
        Created (siteOf source tree) moduleId (ofSource moduleId source tree).history (some there)
          other → value = other := by
  obtain ⟨taken, steps, tour⟩ := tour_ofSource moduleId source tree
  have placed {step : Step} (mem : step ∈ (ofSource moduleId source tree).history) :
      ∃ place, Placed (siteOf source tree) moduleId source tree
        (ofSource moduleId source tree).history ⟨place, step⟩ :=
    tour.placed_of_mem (steps ▸ mem)
  have evaluated : ((ofSource moduleId source tree).history.filterMap Step.evaluated?).Nodup := by
    rw [steps]
    exact tour.nodup_evaluated
  refine ⟨(sound_ofSource moduleId source tree).docs, ?_,
    nodup_documented_ofSource moduleId source tree, ?_, evaluated, ?_⟩
  · intro here value frame mem
    obtain ⟨place, -, shown, -⟩ := placed mem
    exact shown
  · intro type here mem
    obtain ⟨place, -, shown, -⟩ := placed mem
    exact shown
  · exact fun here there value other same one another => one.eq_of_nodup evaluated same another

end Walk

end CommentDocs
