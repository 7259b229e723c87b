import CommentDocs.Graph.Store

/-!
# What the operations of a store do to its views

A store is seen through its values: `value?` and what hangs on it, the parameters, the
properties, the returns and the documentation of a value. Every operation adds a value at
the end or changes one value in place, so two equations about `value?` decide all the rest.
-/

namespace CommentDocs.Store

variable {δ : Type}

def parameter? (store : Store δ) (id : ValueId) (name : Text) : Option ValueId :=
  (store.value? id).bind fun value => value.parameters.get? name

/-- The returns of a value; a missing value has none. -/
def returnsOf (store : Store δ) (id : ValueId) : List ValueId :=
  ((store.value? id).map (·.returns)).getD []

/-- The properties of a value; a missing value has none. -/
def propertiesOf (store : Store δ) (id : ValueId) : Table ValueId :=
  ((store.value? id).map (·.properties)).getD {}

theorem property?_eq (store : Store δ) (id : ValueId) (name : Text) :
    store.property? id name = (store.propertiesOf id).get? name := by
  unfold property? propertiesOf
  cases store.value? id <;> rfl

def doc? (store : Store δ) (id : ValueId) : Option ValueDoc :=
  (store.value? id).map (·.doc)

variable (store : Store δ)

theorem value?_eq_none_iff {id : ValueId} : store.value? id = none ↔ store.nextId ≤ id :=
  List.getElem?_eq_none_iff

theorem lt_nextId {id : ValueId} {value : Value δ} (h : store.value? id = some value) :
    id < store.nextId :=
  (List.getElem?_eq_some_iff.mp h).1

/-- What is there is documented. -/
theorem exists_doc?_of_lt {id : ValueId} (known : id < store.nextId) :
    ∃ doc, store.doc? id = some doc := by
  cases found : store.value? id with
  | none => exact absurd (store.value?_eq_none_iff.mp found) (Nat.not_le.mpr known)
  | some value => exact ⟨value.doc, by rw [doc?, found, Option.map_some]⟩

theorem lt_nextId_of_property? {id target : ValueId} {name : Text}
    (h : store.property? id name = some target) : id < store.nextId := by
  obtain ⟨value, found, _⟩ := Option.bind_eq_some_iff.mp h
  exact store.lt_nextId found

theorem value?_add (value : Value δ) (id : ValueId) :
    (store.add value).value? id = if id = store.nextId then some value else store.value? id := by
  unfold value? add nextId
  rw [List.getElem?_append]
  split
  · rw [if_neg (Nat.ne_of_lt ‹_›)]
  · rename_i past
    rcases Nat.eq_or_lt_of_le (Nat.le_of_not_lt past) with rfl | beyond
    · simp
    · rw [if_neg (Nat.ne_of_gt beyond), List.getElem?_eq_none (by simp; omega),
        List.getElem?_eq_none (by omega)]

theorem value?_add_of_lt {id : ValueId} (old : id < store.nextId) (value : Value δ) :
    (store.add value).value? id = store.value? id := by
  rw [value?_add, if_neg (Nat.ne_of_lt old)]

theorem value?_update (id other : ValueId) (change : Value δ → Value δ) :
    (store.update id change).value? other =
      if other = id then (store.value? id).map change else store.value? other := by
  unfold value? update
  rw [List.getElem?_modify]
  by_cases same : other = id
  · subst same
    simp
  · simp [same, Ne.symm same]

/-- What a value of a changed store was before. -/
theorem eq_of_value?_update {id other : ValueId} {change : Value δ → Value δ} {value : Value δ}
    (found : (store.update id change).value? other = some value) :
    ∃ old, store.value? other = some old ∧ value = if other = id then change old else old := by
  rw [value?_update] at found
  split at found
  · rename_i same
    obtain ⟨old, present, rfl⟩ := Option.map_eq_some_iff.mp found
    exact ⟨old, same ▸ present, by rw [if_pos same]⟩
  · exact ⟨value, found, by rw [if_neg ‹_›]⟩

@[simp] theorem value?_report (event : Event) (id : ValueId) :
    (store.report event).value? id = store.value? id := rfl

@[simp] theorem value?_setVariable (scope : ScopeId) (name : Text) (target id : ValueId) :
    (store.setVariable scope name target).value? id = store.value? id := rfl

@[simp] theorem nextId_add (value : Value δ) : (store.add value).nextId = store.nextId + 1 := by
  simp [nextId, add]

@[simp] theorem nextId_update (id : ValueId) (change : Value δ → Value δ) :
    (store.update id change).nextId = store.nextId := by
  simp [nextId, update]

@[simp] theorem nextId_report (event : Event) : (store.report event).nextId = store.nextId := rfl

@[simp] theorem nextId_setProperty (id : ValueId) (name : Text) (target : ValueId) :
    (store.setProperty id name target).nextId = store.nextId :=
  store.nextId_update id _

@[simp] theorem nextId_appendReturn (id target : ValueId) :
    (store.appendReturn id target).nextId = store.nextId :=
  store.nextId_update id _

@[simp] theorem nextId_addParameter (id : ValueId) (name : Text) (target : ValueId) :
    (store.addParameter id name target).nextId = store.nextId :=
  store.nextId_update id _

@[simp] theorem nextId_nameOnce (id : ValueId) (name : Text) :
    (store.nameOnce id name).nextId = store.nextId :=
  store.nextId_update id _

@[simp] theorem nextId_setVariable (scope : ScopeId) (name : Text) (target : ValueId) :
    (store.setVariable scope name target).nextId = store.nextId := rfl

theorem property?_add_of_lt {id : ValueId} (h : id < store.nextId) (value : Value δ)
    (name : Text) : (store.add value).property? id name = store.property? id name := by
  rw [property?, store.value?_add_of_lt h, property?]

/-- Binding a key in one table of a value shows in that table of that value alone. -/
theorem get?_update_put {view : Value δ → Table ValueId} {change : Value δ → Value δ}
    {key : Text} {target : ValueId}
    (puts : ∀ value, view (change value) = (view value).put key target) (holder id : ValueId)
    (name : Text) :
    (((store.update holder change).value? id).bind fun value => (view value).get? name) =
      if id = holder ∧ name = key ∧ holder < store.nextId then some target
      else (store.value? id).bind fun value => (view value).get? name := by
  rw [value?_update]
  by_cases same : id = holder
  · subst same
    cases found : store.value? id with
    | none =>
      have absent := store.value?_eq_none_iff.mp found
      simp [Nat.not_lt.mpr absent]
    | some value =>
      have present := store.lt_nextId found
      by_cases named : name = key
      · subst named
        simp [present, puts]
      · simp [present, named, Ne.symm named, puts]
  · simp [same]

theorem property?_setProperty (holder target : ValueId) (key : Text) (id : ValueId)
    (name : Text) :
    (store.setProperty holder key target).property? id name =
      if id = holder ∧ name = key ∧ holder < store.nextId then some target
      else store.property? id name :=
  store.get?_update_put (fun _ => rfl) holder id name

theorem parameter?_addParameter (holder target : ValueId) (key : Text) (id : ValueId)
    (name : Text) :
    (store.addParameter holder key target).parameter? id name =
      if id = holder ∧ name = key ∧ holder < store.nextId then some target
      else store.parameter? id name :=
  store.get?_update_put (fun _ => rfl) holder id name

/-- A new value with an empty table binds nothing in it. -/
theorem get?_add {view : Value δ → Table ValueId} {value : Value δ} (empty : view value = {})
    (id : ValueId) (name : Text) :
    (((store.add value).value? id).bind fun value => (view value).get? name) =
      (store.value? id).bind fun value => (view value).get? name := by
  rw [value?_add]
  split
  · rename_i new
    rw [store.value?_eq_none_iff.mpr (Nat.le_of_eq new.symm)]
    simp [empty, Table.get?, Table.find?]
  · rfl

theorem parameter?_add {value : Value δ} (empty : value.parameters = {}) (id : ValueId)
    (name : Text) : (store.add value).parameter? id name = store.parameter? id name :=
  store.get?_add empty id name

theorem property?_add {value : Value δ} (empty : value.properties = {}) (id : ValueId)
    (name : Text) : (store.add value).property? id name = store.property? id name :=
  store.get?_add empty id name

theorem doc?_add_of_lt {id : ValueId} (h : id < store.nextId) (value : Value δ) :
    (store.add value).doc? id = store.doc? id := by
  rw [doc?, store.value?_add_of_lt h, doc?]

/-- An update shows only in what it changes of its value. -/
theorem map_value?_update {α : Type} (id other : ValueId) {change : Value δ → Value δ}
    {view : Value δ → α} (same : ∀ value, view (change value) = view value) :
    ((store.update id change).value? other).map view = (store.value? other).map view := by
  rw [value?_update]
  split
  · rename_i eq
    subst eq
    cases store.value? other <;> simp [same]
  · rfl

theorem doc?_update (id other : ValueId) {change : Value δ → Value δ}
    (same : ∀ value, (change value).doc = value.doc) :
    (store.update id change).doc? other = store.doc? other :=
  store.map_value?_update id other same

theorem doc?_setProperty (holder target : ValueId) (name : Text) (id : ValueId) :
    (store.setProperty holder name target).doc? id = store.doc? id :=
  store.doc?_update _ _ fun _ => rfl

theorem doc?_appendReturn (owner target id : ValueId) :
    (store.appendReturn owner target).doc? id = store.doc? id :=
  store.doc?_update _ _ fun _ => rfl

theorem doc?_addParameter (holder target : ValueId) (name : Text) (id : ValueId) :
    (store.addParameter holder name target).doc? id = store.doc? id :=
  store.doc?_update _ _ fun _ => rfl

theorem parameter?_update (id other : ValueId) (name : Text) {change : Value δ → Value δ}
    (same : ∀ value, (change value).parameters = value.parameters) :
    (store.update id change).parameter? other name = store.parameter? other name := by
  have views := store.map_value?_update id other same
  have found := congrArg (Option.bind · fun parameters => parameters.get? name) views
  rwa [Option.bind_map, Option.bind_map] at found

theorem property?_update (id other : ValueId) (name : Text) {change : Value δ → Value δ}
    (same : ∀ value, (change value).properties = value.properties) :
    (store.update id change).property? other name = store.property? other name := by
  have views := store.map_value?_update id other same
  have found := congrArg (Option.bind · fun properties => properties.get? name) views
  rwa [Option.bind_map, Option.bind_map] at found

theorem returnsOf_update (id other : ValueId) {change : Value δ → Value δ}
    (same : ∀ value, (change value).returns = value.returns) :
    (store.update id change).returnsOf other = store.returnsOf other :=
  congrArg (Option.getD · []) (store.map_value?_update id other same)

theorem propertiesOf_update (id other : ValueId) {change : Value δ → Value δ}
    (same : ∀ value, (change value).properties = value.properties) :
    (store.update id change).propertiesOf other = store.propertiesOf other :=
  congrArg (fun properties : Option (Table ValueId) => properties.getD {})
    (store.map_value?_update id other same)

@[simp] theorem parameter?_setProperty (holder target : ValueId) (key : Text) (id : ValueId)
    (name : Text) :
    (store.setProperty holder key target).parameter? id name = store.parameter? id name :=
  store.parameter?_update _ _ name fun _ => rfl

@[simp] theorem returnsOf_setProperty (holder target : ValueId) (key : Text) (id : ValueId) :
    (store.setProperty holder key target).returnsOf id = store.returnsOf id :=
  store.returnsOf_update _ _ fun _ => rfl

theorem returnsOf_appendReturn (owner target id : ValueId) :
    (store.appendReturn owner target).returnsOf id =
      if id = owner ∧ owner < store.nextId then store.returnsOf id ++ [target]
      else store.returnsOf id := by
  unfold returnsOf appendReturn
  rw [value?_update]
  by_cases same : id = owner
  · subst same
    cases found : store.value? id with
    | none =>
      have absent := store.value?_eq_none_iff.mp found
      simp [Nat.not_lt.mpr absent]
    | some value => simp [store.lt_nextId found]
  · simp [same]

@[simp] theorem parameter?_appendReturn (owner target id : ValueId) (name : Text) :
    (store.appendReturn owner target).parameter? id name = store.parameter? id name :=
  store.parameter?_update _ _ name fun _ => rfl

@[simp] theorem property?_appendReturn (owner target id : ValueId) (name : Text) :
    (store.appendReturn owner target).property? id name = store.property? id name :=
  store.property?_update _ _ name fun _ => rfl

theorem doc?_update_of_ne {id other : ValueId} (h : other ≠ id) (change : Value δ → Value δ) :
    (store.update id change).doc? other = store.doc? other := by
  rw [doc?, value?_update, if_neg h, doc?]

/-- A look-up sees the scopes of a store and nothing else. -/
theorem lookup?_congr {a b : Store δ} (same : b.scopes = a.scopes) (scope : ScopeId)
    (name : Text) : b.lookup? scope name = a.lookup? scope name := by
  induction scope using Nat.strongRecOn with
  | ind scope ih =>
    rw [lookup?, lookup?, same]
    cases a.scopes[scope]? with
    | none => rfl
    | some found =>
      dsimp only
      cases found.bindings.get? name with
      | some target => rfl
      | none =>
        cases found.parent with
        | none => rfl
        | some parent =>
          dsimp only
          split
          · exact ih parent ‹_›
          · rfl

end CommentDocs.Store
