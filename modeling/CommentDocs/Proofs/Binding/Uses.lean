import CommentDocs.Proofs.Binding.Changes

/-!
# Where a value is used

A value is used where it is a property or a return of another value. The changes of a call add
values and use only those, so a value that was there before is used where it was used.
-/

namespace CommentDocs

open Binding Syntax

variable {δ : Type}

/-- A value is a property at some places only, and no return of any value. -/
def Store.OnlyAt (places : ValueId → Text → Prop) (store : Store δ) (id : ValueId) : Prop :=
  ∀ holder, (∀ key, store.property? holder key = some id → places holder key) ∧
    id ∉ store.returnsOf holder

/-- A value is neither a property nor a return of any value. -/
def Store.Unused (store : Store δ) (id : ValueId) : Prop :=
  ∀ holder, (∀ key, store.property? holder key ≠ some id) ∧ id ∉ store.returnsOf holder

namespace Store

variable {store : Store δ} {id : ValueId} {places : ValueId → Text → Prop}

theorem OnlyAt.unused (only : store.OnlyAt (fun _ _ => False) id) : store.Unused id := only

theorem OnlyAt.congr {after : Store δ} (only : store.OnlyAt places id)
    (property : ∀ holder key, after.property? holder key = store.property? holder key)
    (returns : ∀ holder, after.returnsOf holder = store.returnsOf holder) :
    after.OnlyAt places id := by
  intro holder
  rw [returns holder]
  refine ⟨fun key found => (only holder).1 key ?_, (only holder).2⟩
  rwa [property holder key] at found

theorem OnlyAt.add (only : store.OnlyAt places id) {value : Value δ}
    (noProperties : value.properties = {}) (noReturns : value.returns = []) :
    (store.add value).OnlyAt places id := by
  refine only.congr (fun holder key => store.property?_add noProperties holder key)
    fun holder => ?_
  unfold Store.returnsOf
  rw [value?_add]
  split
  · rename_i new
    rw [store.value?_eq_none_iff.mpr (Nat.le_of_eq new.symm), Option.map_some, Option.getD_some,
      noReturns]
    rfl
  · rfl

theorem OnlyAt.setProperty (only : store.OnlyAt places id) {holder target : ValueId} {key : Text}
    (placed : target = id → places holder key) :
    (store.setProperty holder key target).OnlyAt places id := by
  refine fun owner => ⟨fun name found => ?_, ?_⟩
  · rw [property?_setProperty] at found
    split at found
    · rename_i here
      obtain ⟨rfl, rfl, -⟩ := here
      exact placed (Option.some.inj found)
    · exact (only owner).1 name found
  · rw [returnsOf_setProperty]
    exact (only owner).2

theorem OnlyAt.appendReturn (only : store.OnlyAt places id) {target : ValueId}
    (other : target ≠ id) (function : ValueId) :
    (store.appendReturn function target).OnlyAt places id := by
  refine fun owner => ⟨fun name found => ?_, ?_⟩
  · rw [property?_appendReturn] at found
    exact (only owner).1 name found
  · rw [returnsOf_appendReturn]
    split
    · simpa using ⟨(only owner).2, other.symm⟩
    · exact (only owner).2

theorem OnlyAt.mergeInto (only : store.OnlyAt places id) (target : ValueId)
    (fragment : Fragment) : (store.mergeInto target fragment).OnlyAt places id :=
  only.congr (fun _ _ => property?_mergeInto _ _ _ _ _) fun _ => returnsOf_mergeInto _ _ _ _

/-- No path of properties leads to an unused value. -/
theorem Unused.follow?_ne (unused : store.Unused id) {start : Option ValueId}
    (other : start ≠ some id) (path : List Text) : store.follow? start path ≠ some id := by
  induction path generalizing start with
  | nil => exact other
  | cons name rest ih =>
    refine ih fun found => ?_
    obtain ⟨holder, -, property⟩ := Option.bind_eq_some_iff.mp found
    exact (unused holder).1 name property

/-- A value that no name stands for either is not reached. -/
theorem Unused.reach?_ne (unused : store.Unused id) {scope : ScopeId}
    (unnamed : ∀ name, store.lookup? scope name ≠ some id) (path : List Text) :
    store.reach? scope path ≠ some id := by
  cases path with
  | nil => exact fun none => nomatch none
  | cons head rest =>
    rw [reach?]
    split
    · exact fun none => nomatch none
    · exact unused.follow?_ne (unnamed head) rest

end Store

namespace Binding

variable {site : Site} {node : Node} {owner base : ValueId} {store after : Store δ} {id : ValueId}
variable {places : ValueId → Text → Prop}

/-- What a call binds it has added before. -/
theorem Change.onlyAt (change : Change site node owner base store after)
    (only : store.OnlyAt places id) (apart : id < base ∨ after.nextId ≤ id) :
    after.OnlyAt places id := by
  have other {target : ValueId} (new : base ≤ target) (made : target < after.nextId) :
      target ≠ id := by
    rintro rfl
    exact apart.elim (Nat.not_lt.mpr new) (Nat.not_le.mpr made)
  cases change with
  | report event => exact only
  | merge target offered => exact only.mergeInto target _
  | add commented type => exact only.add rfl rfl
  | bind commented placed new added =>
    exact only.setProperty fun same => absurd same (other new (by simpa using added))
  | append commented documented first new found typed =>
    exact only.appendReturn (other new (by simpa using store.lt_nextId found)) _

theorem Changes.onlyAt (changes : Changes site node owner base store after)
    (only : store.OnlyAt places id) (apart : id < base ∨ after.nextId ≤ id) :
    after.OnlyAt places id := by
  induction changes with
  | refl => exact only
  | tail _ change ih =>
    exact change.onlyAt (ih (apart.imp_right (Nat.le_trans change.size))) apart

end Binding

end CommentDocs
