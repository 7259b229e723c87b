import CommentDocs.Proofs.Binding.Changes

/-!
# What changes leave alone

A call is confined to few parts of the graph. Values that exist keep all but their
documentation, their properties and their returns. The properties of a value change only if it
is the node's own value or the prototype of that function, and its returns only if there were
none and the comment documents one. The values that a call adds hold nothing but a type, the
properties of a prototype, and documentation.

Each law is shown for one change, then for any number of them by induction. What carries the
induction is that the call binds its own values only: a property that leads to an older value
was there before.
-/

namespace CommentDocs

open Binding Syntax

variable {δ : Type}

namespace Binding

variable {site : Site} {node : Node} {owner base : ValueId} {store after : Store δ}

theorem Change.scopes (change : Change site node owner base store after) :
    after.scopes = store.scopes := by
  cases change <;> rfl

theorem Changes.scopes (changes : Changes site node owner base store after) :
    after.scopes = store.scopes := by
  induction changes with
  | refl => rfl
  | tail _ change ih => exact change.scopes.trans ih

/-- A property that leads to a value from before the call was there before. -/
theorem Change.property?_of_lt (change : Change site node owner base store after)
    {id target : ValueId} {name : Text} (old : target < base)
    (found : after.property? id name = some target) : store.property? id name = some target := by
  cases change with
  | report event => exact found
  | merge other offered => rwa [Store.property?_mergeInto] at found
  | add commented type =>
    rw [← found]
    exact (store.property?_add rfl id name).symm
  | bind commented placed new added =>
    rw [Store.property?_setProperty] at found
    split at found
    · cases found
      exact absurd old (Nat.not_lt.mpr new)
    · exact found
  | append commented documented first new found' typed =>
    rwa [Store.property?_appendReturn] at found

theorem Changes.property?_of_lt (changes : Changes site node owner base store after)
    {id target : ValueId} {name : Text} (old : target < base)
    (found : after.property? id name = some target) : store.property? id name = some target := by
  induction changes with
  | refl => exact found
  | tail _ change ih => exact ih (change.property?_of_lt old found)

/-- Whether a call may change the properties of a value of the graph. -/
def MayBindIn (site : Site) (node : Node) (owner : ValueId) (store : Store δ) (id : ValueId) :
    Prop :=
  (∃ comment, site.HasBodyComment node comment) ∧
    (id = owner ∨ node.kind = .function ∧ store.property? owner "prototype".toList = some id)

theorem Change.propertiesOf (change : Change site node owner base store after)
    (known : owner < base) (grown : base ≤ store.nextId) {id : ValueId} (old : id < base) :
    after.propertiesOf id = store.propertiesOf id ∨ MayBindIn site node owner store id := by
  cases change with
  | report event => exact .inl rfl
  | merge other offered => exact .inl (store.propertiesOf_update _ _ fun _ => rfl)
  | add commented type =>
    refine .inl ?_
    unfold Store.propertiesOf
    rw [store.value?_add_of_lt (Nat.lt_of_lt_of_le old grown)]
  | @bind comment commented holder target key placed new added =>
    by_cases here : id = holder
    · exact .inr ⟨⟨comment, commented⟩, here ▸ (placed known).1⟩
    · refine .inl ?_
      unfold Store.propertiesOf Store.setProperty
      rw [Store.value?_update, if_neg here]
  | append commented documented first new found typed =>
    exact .inl (store.propertiesOf_update _ _ fun _ => rfl)

/-- The properties of the node's own value are never replaced. -/
theorem Change.property?_owner (change : Change site node owner base store after)
    (known : owner < base) {name : Text} {target : ValueId}
    (found : store.property? owner name = some target) :
    after.property? owner name = some target := by
  cases change with
  | report event => exact found
  | merge other offered => rwa [Store.property?_mergeInto]
  | add commented type =>
    rw [← found]
    exact store.property?_add rfl owner name
  | bind commented placed new added =>
    rw [Store.property?_setProperty]
    split
    · rename_i here
      obtain ⟨same, rfl, _⟩ := here
      rw [(placed known).2 same.symm] at found
      cases found
    · exact found
  | append commented documented first new found typed => rwa [Store.property?_appendReturn]

/-- A property that leads to a value of the graph leads to one afterwards. -/
theorem Change.property?_lt (change : Change site node owner base store after)
    {id target : ValueId} {name : Text}
    (former : ∀ target, store.property? id name = some target → target < store.nextId)
    (found : after.property? id name = some target) : target < after.nextId := by
  have old (present : store.property? id name = some target) : target < after.nextId :=
    Nat.lt_of_lt_of_le (former target present) change.size
  cases change with
  | report event => exact old found
  | merge other offered => exact old ((store.property?_mergeInto _ _ _ _).symm.trans found)
  | add commented type => exact old ((store.property?_add rfl id name).symm.trans found)
  | bind commented placed new added =>
    rw [Store.property?_setProperty] at found
    split at found
    · cases found
      simpa using added
    · exact old found
  | append commented documented first new made typed =>
    exact old ((store.property?_appendReturn _ _ _ _).symm.trans found)

theorem Changes.property?_lt (changes : Changes site node owner base store after)
    {id target : ValueId} {name : Text}
    (former : ∀ target, store.property? id name = some target → target < store.nextId)
    (found : after.property? id name = some target) : target < after.nextId := by
  induction changes generalizing target with
  | refl => exact former target found
  | tail _ change ih => exact change.property?_lt (fun _ => ih) found

variable {before : Store δ}

theorem Changes.propertiesOf (changes : Changes site node owner before.nextId before after)
    (known : owner < before.nextId) {id : ValueId} (old : id < before.nextId) :
    after.propertiesOf id = before.propertiesOf id ∨ MayBindIn site node owner before id := by
  induction changes with
  | refl => exact .inl rfl
  | tail former change ih =>
    rcases ih with same | may
    · rcases change.propertiesOf known (Changes.size former) old with unchanged | ⟨body, place⟩
      · exact .inl (unchanged.trans same)
      · refine .inr ⟨body, place.imp_right fun held => ⟨held.1, ?_⟩⟩
        exact Changes.property?_of_lt former old held.2
    · exact .inr may

/-- The properties of other values stay as they are. -/
theorem Changes.property?_eq (changes : Changes site node owner before.nextId before after)
    (known : owner < before.nextId) {id : ValueId} (old : id < before.nextId)
    (spared : ¬ MayBindIn site node owner before id) (name : Text) :
    after.property? id name = before.property? id name := by
  rw [Store.property?_eq, Store.property?_eq, (changes.propertiesOf known old).resolve_right spared]

/-- A first return was made: there was none, the comment documents one, and its type is one of
the types of values. -/
structure MakesReturn (site : Site) (node : Node) (owner base : ValueId)
    (before after : Store δ) (slot : ValueId) : Prop where
  documented : ∃ comment, site.HasBodyComment node comment ∧
    (Comment.read comment none).returns.isDocumented = true
  first : before.returnsOf owner = []
  returns : after.returnsOf owner = [slot]
  new : base ≤ slot
  typed : ∃ made, after.value? slot = some made ∧ made.type ∈ ModelType.all

theorem Change.returnsOf (change : Change site node owner base store after)
    (known : owner < base) (grown : base ≤ store.nextId) {id : ValueId} (old : id < base) :
    after.returnsOf id = store.returnsOf id ∨
      id = owner ∧ ∃ slot, MakesReturn site node owner base store after slot := by
  cases change with
  | report event => exact .inl rfl
  | merge other offered => exact .inl (store.returnsOf_mergeInto _ _ _)
  | add commented type =>
    refine .inl ?_
    unfold Store.returnsOf
    rw [store.value?_add_of_lt (Nat.lt_of_lt_of_le old grown)]
  | bind commented placed new added => exact .inl (store.returnsOf_setProperty _ _ _ _)
  | append commented documented first new found typed =>
    rw [Store.returnsOf_appendReturn]
    split
    · rename_i here
      refine .inr ⟨here.1, _, ⟨_, commented, documented⟩, first, ?_, new, _, ?_, typed⟩
      · rw [Store.returnsOf_appendReturn, if_pos ⟨rfl, here.2⟩, first, List.nil_append]
      · have other := Nat.ne_of_gt (Nat.lt_of_lt_of_le known new)
        exact (store.value?_update _ _ _).trans ((if_neg other).trans found)
    · exact .inl rfl

/-- A first return stays as it was made. -/
theorem MakesReturn.tail {slot : ValueId}
    (made : MakesReturn site node owner base before store slot)
    (change : Change site node owner base store after)
    (same : after.returnsOf owner = store.returnsOf owner) :
    MakesReturn site node owner base before after slot := by
  obtain ⟨value, found, typed⟩ := made.typed
  obtain ⟨other, present, equal⟩ :=
    Store.exists_of_declaration?_eq (change.declaration?_eq (store.lt_nextId found)) found
  have type : other.declaration.type = value.declaration.type := by rw [equal]
  exact ⟨made.documented, made.first, same.trans made.returns, made.new, other, present,
    type ▸ typed⟩

theorem Changes.returnsOf (changes : Changes site node owner before.nextId before after)
    (known : owner < before.nextId) {id : ValueId} (old : id < before.nextId) :
    after.returnsOf id = before.returnsOf id ∨
      id = owner ∧ ∃ slot, MakesReturn site node owner before.nextId before after slot := by
  induction changes with
  | refl => exact .inl rfl
  | tail former change ih =>
    have last := change.returnsOf known (Changes.size former) old
    rcases ih with same | ⟨rfl, slot, made⟩
    · rcases last with unchanged | ⟨rfl, slot, made⟩
      · exact .inl (unchanged.trans same)
      · exact .inr ⟨rfl, slot, { made with first := same ▸ made.first }⟩
    · rcases last with unchanged | ⟨_, other, again⟩
      · exact .inr ⟨rfl, slot, made.tail change unchanged⟩
      · have empty := again.first
        rw [made.returns] at empty
        cases empty

/-- A value that a call added has a type and nothing else, apart from documentation and the
properties of a prototype. -/
structure Newcomer (site : Site) (node : Node) (owner : ValueId) (store : Store δ)
    (id : ValueId) (value : Value δ) : Prop where
  commented : ∃ comment, site.HasBodyComment node comment
  declaration : value.declaration = { type := value.type }
  returns : value.returns = []
  properties : value.properties = {} ∨
    node.kind = .function ∧ store.property? owner "prototype".toList = some id

theorem Change.newcomer (change : Change site node owner base store after)
    (known : owner < base)
    (former : ∀ id value, base ≤ id → store.value? id = some value →
      Newcomer site node owner store id value)
    {id : ValueId} {value : Value δ} (new : base ≤ id) (found : after.value? id = some value) :
    Newcomer site node owner after id value := by
  -- what a value of the graph before the change was stays, as the own properties do
  have kept {old : Value δ} (present : store.value? id = some old) :
      Newcomer site node owner after id old := by
    obtain ⟨commented, declaration, returns, properties⟩ := former id old new present
    exact ⟨commented, declaration, returns,
      properties.imp_right fun held => ⟨held.1, change.property?_owner known held.2⟩⟩
  have other : id ≠ owner := Nat.ne_of_gt (Nat.lt_of_lt_of_le known new)
  have prototype (found : store.property? owner "prototype".toList = some id) :=
    change.property?_owner known found
  cases change with
  | report event => exact kept found
  | merge target offered =>
    obtain ⟨old, present, rfl⟩ := store.eq_of_value?_update found
    obtain ⟨commented, declaration, returns, properties⟩ := kept present
    split
    · exact ⟨commented, declaration, returns, properties⟩
    · exact ⟨commented, declaration, returns, properties⟩
  | add commented type =>
    rw [Store.value?_add] at found
    split at found
    · cases found
      exact ⟨⟨_, commented⟩, rfl, rfl, .inl rfl⟩
    · exact kept found
  | bind commented placed target added =>
    obtain ⟨old, present, rfl⟩ := store.eq_of_value?_update found
    obtain ⟨commented, declaration, returns, properties⟩ := kept present
    split
    · rename_i here
      subst here
      obtain ⟨isFunction, held⟩ := ((placed known).1).resolve_left other
      exact ⟨commented, declaration, returns, .inr ⟨isFunction, prototype held⟩⟩
    · exact ⟨commented, declaration, returns, properties⟩
  | append commented documented first made present typed =>
    obtain ⟨old, present, rfl⟩ := store.eq_of_value?_update found
    rw [if_neg other]
    exact kept present

theorem Changes.newcomer (changes : Changes site node owner before.nextId before after)
    (known : owner < before.nextId) {id : ValueId} {value : Value δ} (new : before.nextId ≤ id)
    (found : after.value? id = some value) : Newcomer site node owner after id value := by
  induction changes generalizing id value with
  | refl => exact absurd (before.lt_nextId found) (Nat.not_lt.mpr new)
  | tail _ change ih => exact change.newcomer known (fun _ _ => ih) new found

end Binding

end CommentDocs
