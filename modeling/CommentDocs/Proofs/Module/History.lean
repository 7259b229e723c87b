import CommentDocs.Module.Walk
import CommentDocs.Proofs.Binding.Documenting
import Mathlib.Data.List.Induction

/-!
# Documentation after some steps

The documentation of a module is what its steps come to, so a fact about it is a fact about
a list of steps. Three kinds of facts are used all over. Identities are never given back:
later documentation knows all values of the earlier one. Names are bound by publishing
alone, so the module's scope is the table of what it published. And only the step that
documents a node changes documentation.
-/

namespace CommentDocs.ModuleDocs

open Binding Syntax

variable (site : Site)

def ofSteps (moduleId : Text) (steps : List Step) : ModuleDocs :=
  applyAll site { moduleId } steps

variable (moduleId : Text)

theorem ofSteps_append (earlier later : List Step) :
    ofSteps site moduleId (earlier ++ later) =
      applyAll site (ofSteps site moduleId earlier) later := by
  simp only [ofSteps, applyAll, List.foldl_append]

theorem ofSteps_concat (steps : List Step) (step : Step) :
    ofSteps site moduleId (steps ++ [step]) = (ofSteps site moduleId steps).apply site step :=
  ofSteps_append site moduleId steps [step]

theorem documentsOnly_bound (here : Occurrence) (value : ValueId) (frame : Option Frame)
    (store : Store Empty) :
    Store.DocumentsOnly (fun id => id = value ∨ site.Reaches store here.node value id) store
      (bound site here value frame store) :=
  documentsOnly_document site store here.node value _

theorem nextId_le_apply (docs : ModuleDocs) (step : Step) :
    docs.store.nextId ≤ (docs.apply site step).store.nextId := by
  cases step with
  | create type here => simp [apply, mapStore]
  | document here value frame => exact (documentsOnly_bound site here value frame docs.store).size
  | _ => simp [apply, mapStore]

theorem nextId_le_applyAll (docs : ModuleDocs) (steps : List Step) :
    docs.store.nextId ≤ (docs.applyAll site steps).store.nextId := by
  induction steps generalizing docs with
  | nil => exact Nat.le_refl _
  | cons step rest ih => exact Nat.le_trans (nextId_le_apply site docs step) (ih _)

theorem nextId_le_of_prefix {earlier later : List Step} (h : earlier <+: later) :
    (ofSteps site moduleId earlier).store.nextId ≤ (ofSteps site moduleId later).store.nextId := by
  obtain ⟨rest, rfl⟩ := h
  rw [ofSteps_append]
  exact nextId_le_applyAll site _ rest

/-- Documentation of a value changes only when a node is documented. -/
theorem doc?_apply {docs : ModuleDocs} {step : Step} {id : ValueId} (old : id < docs.store.nextId)
    (changed : (docs.apply site step).store.doc? id ≠ docs.store.doc? id) :
    ∃ here value frame, step = .document here value frame ∧
      (id = value ∨ site.Reaches docs.store here.node value id) := by
  cases step with
  | create type here => exact absurd (docs.store.doc?_add_of_lt old _) changed
  | document here value frame =>
    refine ⟨here, value, frame, rfl, Classical.byContradiction fun spared => changed ?_⟩
    exact (documentsOnly_bound site here value frame docs.store).doc id old spared
  | publish name value => exact absurd rfl changed
  | setExports value => exact absurd rfl changed
  | _ =>
    refine absurd ?_ changed
    exact docs.store.doc?_update _ _ fun _ => rfl

/-- A step that binds neither a name of the module nor a parameter. -/
def Step.isQuiet : Step → Bool
  | .publish _ _ => false
  | .addParameter _ _ _ => false
  | _ => true

theorem Step.ne_publish_of_isQuiet {step : Step} (quiet : step.isQuiet) (name : Text)
    (value : ValueId) : step ≠ .publish name value := by
  rintro rfl
  cases quiet

theorem Step.ne_addParameter_of_isQuiet {step : Step} (quiet : step.isQuiet)
    (function : ValueId) (name : Text) (parameter : ValueId) :
    step ≠ .addParameter function name parameter := by
  rintro rfl
  cases quiet

theorem scopes_apply {step : Step} (silent : ∀ name value, step ≠ .publish name value)
    (docs : ModuleDocs) :
    (docs.apply site step).store.scopes = docs.store.scopes := by
  cases step with
  | publish name value => exact absurd rfl (silent name value)
  | document here value frame => exact (documentsOnly_bound site here value frame docs.store).scopes
  | _ => rfl

/-- A module has one scope, and what it binds was published. -/
theorem scopes_ofSteps (steps : List Step) :
    ∃ bindings : Table ValueId, (ofSteps site moduleId steps).store.scopes = [{ bindings }] ∧
      ∀ name value, bindings.get? name = some value → Step.publish name value ∈ steps := by
  induction steps using List.reverseRecOn with
  | nil => exact ⟨{}, rfl, fun _ _ found => nomatch found⟩
  | append_singleton steps step ih =>
    obtain ⟨bindings, scopes, published⟩ := ih
    rw [ofSteps_concat]
    by_cases binds : ∃ name value, step = .publish name value
    · obtain ⟨name, value, rfl⟩ := binds
      refine ⟨if site.scope = 0 then bindings.put name value else bindings, ?_, ?_⟩
      · simp only [apply, mapStore, Store.setVariable, scopes]
        cases site.scope <;> simp
      · intro other target found
        refine List.mem_append.mpr ?_
        by_cases own : other = name ∧ target = value
        · exact .inr (by simp [own])
        · refine .inl (published other target ?_)
          split at found
          · rw [Table.get?_put] at found
            split at found
            · rename_i same
              exact absurd ⟨same.symm, (Option.some.inj found).symm⟩ own
            · exact found
          · exact found
    · rw [scopes_apply site fun name value same => binds ⟨name, value, same⟩]
      exact ⟨bindings, scopes, fun name value found =>
        List.mem_append_left _ (published name value found)⟩

/-- A name in scope was published. -/
theorem publish_mem_of_lookup? {steps : List Step} {scope : ScopeId} {name : Text}
    {value : ValueId}
    (found : (ofSteps site moduleId steps).store.lookup? scope name = some value) :
    Step.publish name value ∈ steps := by
  obtain ⟨bindings, scopes, published⟩ := scopes_ofSteps site moduleId steps
  refine published name value ?_
  rw [Store.lookup?, scopes] at found
  cases scope with
  | zero => cases bound : bindings.get? name <;> simp_all
  | succ scope => simp at found

theorem parameter?_apply {step : Step}
    (silent : ∀ function name parameter, step ≠ .addParameter function name parameter)
    (docs : ModuleDocs) (id : ValueId) (name : Text) :
    (docs.apply site step).store.parameter? id name = docs.store.parameter? id name := by
  cases step with
  | create type here => exact docs.store.parameter?_add rfl id name
  | addParameter function key parameter => exact absurd rfl (silent function key parameter)
  | document here value frame =>
    exact (documentsOnly_bound site here value frame docs.store).parameter id name
  | publish key value => rfl
  | setExports value => rfl
  | _ => exact docs.store.parameter?_update _ _ name fun _ => rfl

theorem property?_apply {step : Step}
    (silent : ∀ holder name target, step ≠ .setProperty holder name target)
    (undocumented : ∀ here value frame, step ≠ .document here value frame)
    (docs : ModuleDocs) (id : ValueId) (name : Text) :
    (docs.apply site step).store.property? id name = docs.store.property? id name := by
  cases step with
  | create type here => exact docs.store.property?_add rfl id name
  | setProperty holder key target => exact absurd rfl (silent holder key target)
  | document here value frame => exact absurd rfl (undocumented here value frame)
  | publish key value => rfl
  | setExports value => rfl
  | _ => exact docs.store.property?_update _ _ name fun _ => rfl

/-- A parameter was added as one. -/
theorem addParameter_mem_of_parameter? {steps : List Step} {function : ValueId} {name : Text}
    {parameter : ValueId}
    (found : (ofSteps site moduleId steps).store.parameter? function name = some parameter) :
    Step.addParameter function name parameter ∈ steps := by
  induction steps using List.reverseRecOn with
  | nil => cases found
  | append_singleton steps step ih =>
    rw [ofSteps_concat] at found
    refine List.mem_append.mpr ?_
    by_cases adds : ∃ holder key target, step = .addParameter holder key target
    · obtain ⟨holder, key, target, rfl⟩ := adds
      simp only [apply, mapStore, Store.parameter?_addParameter] at found
      split at found
      · rename_i same
        obtain ⟨rfl, rfl, _⟩ := same
        cases found
        exact .inr List.mem_cons_self
      · exact .inl (ih found)
    · rw [parameter?_apply site fun holder key target same => adds ⟨holder, key, target, same⟩]
        at found
      exact .inl (ih found)

end CommentDocs.ModuleDocs
