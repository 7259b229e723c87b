import CommentDocs.Proofs.Graph.Views
import CommentDocs.Binding.Fabrication

/-!
# What a change of the store keeps

A change keeps an entry when the name is bound to the same value afterwards, and it keeps a
list of returns when it only adds at the end. `KeepsExcept overwritten` says that everything
is kept but the properties in `overwritten`, and that those are bound to values that did not
exist before. Both halves are needed to say exactly which entries survive
(`KeepsExcept.property?_eq_iff`), and both compose along a run.
-/

namespace CommentDocs

variable {δ : Type}

/-- A value in which every name keeps its value and the returns only grow. -/
structure Value.Grows (old new : Value δ) : Prop where
  parameter : ∀ name target, old.parameters.get? name = some target →
    new.parameters.get? name = some target
  property : ∀ name target, old.properties.get? name = some target →
    new.properties.get? name = some target
  returns : old.returns <+: new.returns

theorem Value.Grows.refl (value : Value δ) : value.Grows value :=
  ⟨fun _ _ h => h, fun _ _ h => h, List.prefix_refl _⟩

namespace Store

/-- All entries and returns are kept, except that the `overwritten` properties are bound to
values that did not exist before. -/
structure KeepsExcept (overwritten : ValueId → Text → Prop) (before after : Store δ) : Prop where
  size : before.nextId ≤ after.nextId
  parameter : ∀ id name target, before.parameter? id name = some target →
    after.parameter? id name = some target
  property : ∀ id name target, before.property? id name = some target →
    ¬ overwritten id name → after.property? id name = some target
  fresh : ∀ id name target, before.property? id name = some target → overwritten id name →
    ∃ new, after.property? id name = some new ∧ before.nextId ≤ new
  returns : ∀ id, before.returnsOf id <+: after.returnsOf id

/-- All entries and returns are kept. -/
abbrev Keeps (before after : Store δ) : Prop :=
  KeepsExcept (fun _ _ => False) before after

namespace KeepsExcept

variable {a b c : Store δ} {p q : ValueId → Text → Prop}

theorem refl (store : Store δ) : store.Keeps store :=
  ⟨Nat.le_refl _, fun _ _ _ h => h, fun _ _ _ h _ => h, fun _ _ _ _ h => h.elim,
    fun _ => List.prefix_refl _⟩

/-- Only entries that exist can be overwritten. -/
theorem congr (h : KeepsExcept p a b)
    (same : ∀ id name target, a.property? id name = some target → (q id name ↔ p id name)) :
    KeepsExcept q a b where
  size := h.size
  parameter := h.parameter
  property id name target found kept :=
    h.property id name target found (mt (same id name target found).mpr kept)
  fresh id name target found lost :=
    h.fresh id name target found ((same id name target found).mp lost)
  returns := h.returns

/-- An entry of a run is overwritten when one of its parts overwrites it: a later part can
only put another new value in the place of a new one. -/
theorem trans (first : KeepsExcept p a b) (second : KeepsExcept q b c) :
    KeepsExcept (fun id name => p id name ∨ q id name) a c where
  size := Nat.le_trans first.size second.size
  parameter id name target found :=
    second.parameter id name target (first.parameter id name target found)
  property id name target found kept :=
    second.property id name target
      (first.property id name target found fun lost => kept (.inl lost))
      fun lost => kept (.inr lost)
  fresh id name target found lost := by
    have middle : ∃ value, b.property? id name = some value ∧ (p id name → a.nextId ≤ value) := by
      by_cases here : p id name
      · obtain ⟨value, bound, new⟩ := first.fresh id name target found here
        exact ⟨value, bound, fun _ => new⟩
      · exact ⟨target, first.property id name target found here, fun lost => absurd lost here⟩
    obtain ⟨value, bound, new⟩ := middle
    by_cases later : q id name
    · obtain ⟨last, bound, newer⟩ := second.fresh id name value bound later
      exact ⟨last, bound, Nat.le_trans first.size newer⟩
    · exact ⟨value, second.property id name value bound later, new (lost.resolve_right later)⟩
  returns id := (first.returns id).trans (second.returns id)

theorem trans_keeps (first : KeepsExcept p a b) (second : b.Keeps c) : KeepsExcept p a c :=
  (first.trans second).congr fun _ _ _ _ => by rw [or_false]

/-- Which entries survive: an entry for a value of the graph keeps that value exactly when it
is not overwritten. -/
theorem property?_eq_iff (h : KeepsExcept p a b) {id target : ValueId} {name : Text}
    (found : a.property? id name = some target) (exist : target < a.nextId) :
    b.property? id name = some target ↔ ¬ p id name := by
  refine ⟨fun kept lost => ?_, h.property id name target found⟩
  obtain ⟨new, bound, fresh⟩ := h.fresh id name target found lost
  rw [kept, Option.some.injEq] at bound
  exact Nat.not_lt.mpr fresh (bound ▸ exist)

end KeepsExcept

variable (store : Store δ)

theorem keeps_report (event : Event) : store.Keeps (store.report event) :=
  ⟨Nat.le_refl _, fun _ _ _ h => h, fun _ _ _ h _ => h, fun _ _ _ _ h => h.elim,
    fun _ => List.prefix_refl _⟩

theorem keeps_add (value : Value δ) : store.Keeps (store.add value) where
  size := by simp
  parameter id name target found := by
    obtain ⟨old, found, bound⟩ := Option.bind_eq_some_iff.mp found
    rw [parameter?, value?_add, if_neg (Nat.ne_of_lt (store.lt_nextId found)), found]
    exact bound
  property id name target found _ := by
    rwa [property?_add_of_lt store (store.lt_nextId_of_property? found)]
  fresh _ _ _ _ lost := lost.elim
  returns id := by
    unfold returnsOf
    rw [value?_add]
    split
    · rename_i new
      rw [store.value?_eq_none_iff.mpr (Nat.le_of_eq new.symm)]
      exact List.nil_prefix
    · exact List.prefix_refl _

/-- A change in place keeps what it lets every value keep. -/
theorem keeps_update (id : ValueId) {change : Value δ → Value δ}
    (grows : ∀ value : Value δ, value.Grows (change value)) :
    store.Keeps (store.update id change) where
  size := by simp
  parameter other name target found := by
    obtain ⟨old, found, bound⟩ := Option.bind_eq_some_iff.mp found
    unfold parameter?
    rw [value?_update]
    split
    · rename_i same
      subst same
      simpa [found] using (grows old).parameter name target bound
    · rwa [found]
  property other name target found _ := by
    obtain ⟨old, found, bound⟩ := Option.bind_eq_some_iff.mp found
    unfold property?
    rw [value?_update]
    split
    · rename_i same
      subst same
      simpa [found] using (grows old).property name target bound
    · rwa [found]
  fresh _ _ _ _ lost := lost.elim
  returns other := by
    unfold returnsOf
    rw [value?_update]
    split
    · rename_i same
      subst same
      cases store.value? other with
      | none => exact List.prefix_refl _
      | some old => exact (grows old).returns
    · exact List.prefix_refl _

@[simp] theorem parameter?_mergeInto (id : ValueId) (fragment : Fragment) (other : ValueId)
    (name : Text) :
    (store.mergeInto id fragment).parameter? other name = store.parameter? other name :=
  store.parameter?_update _ _ name fun _ => rfl

@[simp] theorem property?_mergeInto (id : ValueId) (fragment : Fragment) (other : ValueId)
    (name : Text) :
    (store.mergeInto id fragment).property? other name = store.property? other name :=
  store.property?_update _ _ name fun _ => rfl

@[simp] theorem returnsOf_mergeInto (id : ValueId) (fragment : Fragment) (other : ValueId) :
    (store.mergeInto id fragment).returnsOf other = store.returnsOf other :=
  store.returnsOf_update _ _ fun _ => rfl

theorem doc?_mergeInto (id : ValueId) (fragment : Fragment) :
    (store.mergeInto id fragment).doc? id = (store.doc? id).map (·.merge fragment) := by
  unfold doc? mergeInto
  rw [value?_update, if_pos rfl]
  cases store.value? id <;> rfl

theorem keeps_mergeInto (id : ValueId) (fragment : Fragment) :
    store.Keeps (store.mergeInto id fragment) :=
  store.keeps_update id fun _ => ⟨fun _ _ h => h, fun _ _ h => h, List.prefix_refl _⟩

theorem keeps_appendReturn (id target : ValueId) : store.Keeps (store.appendReturn id target) :=
  store.keeps_update id fun _ => ⟨fun _ _ h => h, fun _ _ h => h, List.prefix_append _ _⟩

theorem keeps_ensureReturn (owner : ValueId) (type : Text) :
    store.Keeps (store.ensureReturn owner type).2 := by
  unfold ensureReturn
  split
  · exact .refl store
  · split
    · exact .refl store
    · exact (store.keeps_add _).trans_keeps
        ((keeps_appendReturn _ owner _).trans_keeps (keeps_report _ _))

/-- Binding a property to a value that is new since `before` overwrites that entry and keeps
the rest. -/
theorem KeepsExcept.setProperty {before : Store δ} (kept : before.Keeps store)
    {target : ValueId} (new : before.nextId ≤ target) (holder : ValueId) (key : Text) :
    KeepsExcept (fun id name => id = holder ∧ name = key) before
      (store.setProperty holder key target) where
  size := by simpa using kept.size
  parameter id name value found := by
    rw [parameter?_setProperty]
    exact kept.parameter id name value found
  property id name value found notHere := by
    have found := kept.property id name value found not_false
    rw [property?_setProperty, if_neg fun here => notHere ⟨here.1, here.2.1⟩]
    exact found
  fresh id name value found here := by
    have exist := store.lt_nextId_of_property? (kept.property id name value found not_false)
    obtain ⟨rfl, rfl⟩ := here
    exact ⟨target, by rw [property?_setProperty, if_pos ⟨rfl, rfl, exist⟩], new⟩
  returns id := by
    rw [returnsOf_setProperty]
    exact kept.returns id

end Store

end CommentDocs
