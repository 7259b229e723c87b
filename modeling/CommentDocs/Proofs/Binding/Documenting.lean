import CommentDocs.Proofs.Binding.Runs
import CommentDocs.Proofs.Graph.Keeping

/-!
# Which values a comment documents

Documenting a node changes the documentation of few values. The node's own value is one of
them. A body comment reaches further: to what its keys name among the parameters and
properties of that value, and to its first return. Whatever else is there before the call
keeps its documentation.

A body comment adds values while it is bound, so what a later key reaches is looked up in a
graph that has grown. The entries that appear on the way lead to new values only, hence a
value of the graph before the call is reached afterwards only if it was reached then.

Completing values is left out here: these are the laws of a graph with nothing left to
compute.
-/

namespace CommentDocs

open Binding Syntax

variable {δ : Type}

namespace Store

/-- Of the values that exist before, only the `documented` ones change their documentation.
Scopes and parameters stay, and new properties and first returns are new values. -/
structure DocumentsOnly (documented : ValueId → Prop) (before after : Store δ) : Prop where
  size : before.nextId ≤ after.nextId
  scopes : after.scopes = before.scopes
  parameter : ∀ id name, after.parameter? id name = before.parameter? id name
  property : ∀ id name target, after.property? id name = some target →
    before.property? id name = some target ∨ before.nextId ≤ target
  firstReturn : ∀ id target, (after.returnsOf id).head? = some target →
    (before.returnsOf id).head? = some target ∨ before.nextId ≤ target
  doc : ∀ id, id < before.nextId → ¬ documented id → after.doc? id = before.doc? id

namespace DocumentsOnly

variable {a b c : Store δ} {p q : ValueId → Prop}

theorem refl (store : Store δ) : DocumentsOnly (fun _ => False) store store :=
  ⟨Nat.le_refl _, rfl, fun _ _ => rfl, fun _ _ _ h => .inl h, fun _ _ h => .inl h,
    fun _ _ _ => rfl⟩

/-- Only the values that exist before matter. -/
theorem mono (h : DocumentsOnly p a b) (covers : ∀ id, id < a.nextId → p id → q id) :
    DocumentsOnly q a b :=
  { h with doc := fun id old spared => h.doc id old fun hit => spared (covers id old hit) }

theorem trans (first : DocumentsOnly p a b) (second : DocumentsOnly q b c) :
    DocumentsOnly (fun id => p id ∨ q id) a c where
  size := Nat.le_trans first.size second.size
  scopes := second.scopes.trans first.scopes
  parameter id name := (second.parameter id name).trans (first.parameter id name)
  property id name target found := by
    rcases second.property id name target found with middle | new
    · exact first.property id name target middle
    · exact .inr (Nat.le_trans first.size new)
  firstReturn id target found := by
    rcases second.firstReturn id target found with middle | new
    · exact first.firstReturn id target middle
    · exact .inr (Nat.le_trans first.size new)
  doc id old spared := by
    have later := second.doc id (Nat.lt_of_lt_of_le old first.size) fun hit => spared (.inr hit)
    exact later.trans (first.doc id old fun hit => spared (.inl hit))

end DocumentsOnly

variable (store : Store δ)

theorem documentsOnly_report (event : Event) :
    DocumentsOnly (fun _ => False) store (store.report event) :=
  ⟨Nat.le_refl _, rfl, fun _ _ => rfl, fun _ _ _ h => .inl h, fun _ _ h => .inl h,
    fun _ _ _ => rfl⟩

/-- A value of a type alone brings no entries along. -/
theorem documentsOnly_add (type : Text) :
    DocumentsOnly (fun _ => False) store (store.add { type }) where
  size := by simp
  scopes := rfl
  parameter id name := store.parameter?_add rfl id name
  property id name target found := by
    rw [store.property?_add rfl] at found
    exact .inl found
  firstReturn id target found := by
    unfold returnsOf at *
    rw [value?_add] at found
    split at found
    · cases found
    · exact .inl found
  doc id old _ := store.doc?_add_of_lt old _

theorem documentsOnly_mergeInto (id : ValueId) (fragment : Fragment) :
    DocumentsOnly (· = id) store (store.mergeInto id fragment) where
  size := by simp [mergeInto]
  scopes := rfl
  parameter other name := store.parameter?_mergeInto id fragment other name
  property other name target found := by
    rw [property?_mergeInto] at found
    exact .inl found
  firstReturn other target found := by
    rw [returnsOf_mergeInto] at found
    exact .inl found
  doc other _ spared := store.doc?_update_of_ne spared _

variable {store}

/-- A property that is bound to a new value hides no documentation. -/
theorem DocumentsOnly.setProperty {before : Store δ} {p : ValueId → Prop}
    (done : DocumentsOnly p before store) {target : ValueId} (new : before.nextId ≤ target)
    (holder : ValueId) (key : Text) :
    DocumentsOnly p before (store.setProperty holder key target) where
  size := by simpa using done.size
  scopes := done.scopes
  parameter id name := by
    rw [parameter?_setProperty, done.parameter]
  property id name value found := by
    rw [property?_setProperty] at found
    split at found
    · cases found
      exact .inr new
    · exact done.property id name value found
  firstReturn id value found := by
    rw [returnsOf_setProperty] at found
    exact done.firstReturn id value found
  doc id old spared := by
    rw [store.doc?_setProperty, done.doc id old spared]

/-- A new first return hides no documentation either. -/
theorem DocumentsOnly.appendReturn {before : Store δ} {p : ValueId → Prop}
    (done : DocumentsOnly p before store) {target : ValueId} (new : before.nextId ≤ target)
    (owner : ValueId) : DocumentsOnly p before (store.appendReturn owner target) where
  size := by simpa using done.size
  scopes := done.scopes
  parameter id name := by
    rw [parameter?_appendReturn, done.parameter]
  property id name value found := by
    rw [property?_appendReturn] at found
    exact done.property id name value found
  firstReturn id value found := by
    rw [returnsOf_appendReturn] at found
    split at found
    · rw [List.head?_append, Option.or_eq_some_iff] at found
      rcases found with former | ⟨_, last⟩
      · exact done.firstReturn id value former
      · cases last
        exact .inr new
    · exact done.firstReturn id value found
  doc id old spared := by
    rw [store.doc?_appendReturn, done.doc id old spared]

variable (store)

theorem documentsOnly_fabricate (owner : ValueId) (isFunction : Bool) (key type : Text) :
    DocumentsOnly (fun _ => False) store (store.fabricate owner isFunction key type).2 := by
  have added := store.documentsOnly_add type
  have reported {last : Store δ} (done : DocumentsOnly (fun _ => False) store last)
    (event : Event) :
      DocumentsOnly (fun _ => False) store (last.report event) :=
    (done.trans (last.documentsOnly_report event)).mono fun _ _ => by simp
  unfold fabricate
  cases isFunction with
  | false => exact reported (added.setProperty (Nat.le_refl _) owner key) _
  | true =>
    unfold ensurePrototype
    simp only [if_true]
    cases (store.add { type }).property? owner "prototype".toList with
    | some holder => exact reported (added.setProperty (Nat.le_refl _) holder key) _
    | none =>
      have grown : DocumentsOnly (fun _ => False) store
          ((store.add { type }).add { type := ModelType.object }) :=
        (added.trans (documentsOnly_add _ _)).mono fun _ _ => by simp
      have new : store.nextId ≤ (store.add { type }).nextId := by simp
      have attached := grown.setProperty new owner "prototype".toList
      exact reported (attached.setProperty (Nat.le_refl _) _ key) _

theorem documentsOnly_ensureReturn (owner : ValueId) (type : Text) :
    DocumentsOnly (fun _ => False) store (store.ensureReturn owner type).2 ∧
      ∀ id, (store.ensureReturn owner type).1 = some id → id < store.nextId →
        (store.returnsOf owner).head? = some id := by
  unfold ensureReturn
  cases holds : store.value? owner with
  | none => exact ⟨.refl store, fun id found => by cases found⟩
  | some value =>
    cases returns : value.returns with
    | cons first rest =>
      simp only [returns]
      refine ⟨.refl store, fun id found _ => ?_⟩
      simpa [returnsOf, holds, returns] using found
    | nil =>
      simp only [returns]
      have added := store.documentsOnly_add (createdReturnType type)
      refine ⟨((added.appendReturn (Nat.le_refl _) owner).trans (documentsOnly_report _ _)).mono
        fun _ _ => by simp, fun id found old => ?_⟩
      cases found
      exact absurd old (Nat.lt_irrefl _)

theorem documented?_eq (owner : ValueId) (isFunction : Bool) (key : Text) :
    store.documented? owner isFunction key =
      (if isFunction then store.parameter? owner key else none).or (store.property? owner key) := by
  unfold documented? parameter? property?
  cases store.value? owner with
  | none => cases isFunction <;> rfl
  | some value => rfl

/-- A value of the graph before is reached by a key afterwards only if the key reached it
before. -/
theorem DocumentsOnly.documented? {before after : Store δ} {p : ValueId → Prop}
    (done : DocumentsOnly p before after) {owner id : ValueId} {isFunction : Bool} {key : Text}
    (old : id < before.nextId) (reached : after.documented? owner isFunction key = some id) :
    before.documented? owner isFunction key = some id := by
  rw [documented?_eq, Option.or_eq_some_iff] at *
  rw [done.parameter] at reached
  refine reached.imp_right fun found => ⟨found.1, ?_⟩
  exact (done.property owner key id found.2).resolve_right (Nat.not_le.mpr old)

end Store

namespace Binding

variable (site : Site) (store : Store δ)

/-- Leave every value as it is: there is nothing to complete. -/
abbrev inert : Evaluator δ := fun _ => pure ()

theorem documentsOnly_resolve (scope : ScopeId) (type : Text) :
    Store.DocumentsOnly (fun _ => False) store
      ((resolve (δ := δ) inert scope type).run store).2 := by
  rw [run_resolve]
  split
  · exact .refl store
  · split
    · exact store.documentsOnly_report _
    · exact .refl store
    · exact .refl store

theorem documentsOnly_target (owner : ValueId) (isFunction : Bool) (doc : Comment.CommentDoc)
    (key : Text) :
    let found := (target (m := StateM (Store δ)) δ owner isFunction doc key).run store
    Store.DocumentsOnly (fun _ => False) store found.2 ∧
      (found.1 < store.nextId → store.documented? owner isFunction key = some found.1) := by
  intro found
  have run : found = _ := run_target store owner isFunction doc key
  cases known : store.documented? owner isFunction key with
  | some id =>
    rw [known] at run
    rw [run]
    exact ⟨.refl store, fun _ => rfl⟩
  | none =>
    rw [known] at run
    rw [run]
    exact ⟨store.documentsOnly_fabricate owner isFunction key _,
      fun old => absurd old (Nat.lt_irrefl _)⟩

/-- One key documents what it reaches. -/
theorem documentsOnly_boundEntry (owner : ValueId) (isFunction : Bool)
    (doc : Comment.CommentDoc) (entry : Text × Comment.EntryDoc) :
    Store.DocumentsOnly (fun id => store.documented? owner isFunction entry.1 = some id) store
      (boundEntry inert site store owner isFunction doc entry) := by
  obtain ⟨found, reached⟩ := documentsOnly_target store owner isFunction doc entry.1
  refine Store.DocumentsOnly.mono ((found.trans (documentsOnly_resolve _ site.scope _)).trans
    (Store.documentsOnly_mergeInto _ _ _)) fun id old hit => ?_
  rcases hit with (hit | hit) | rfl
  · exact hit.elim
  · exact hit.elim
  · exact reached old

/-- All keys together document what they reach in the graph before the first one. -/
theorem documentsOnly_boundEntries (owner : ValueId) (isFunction : Bool)
    (doc : Comment.CommentDoc) (entries : List (Text × Comment.EntryDoc)) :
    Store.DocumentsOnly
      (fun id => ∃ key ∈ entries.map (·.1), store.documented? owner isFunction key = some id)
      store
      (entries.foldl (fun store => boundEntry inert site store owner isFunction doc) store) := by
  induction entries generalizing store with
  | nil => exact (Store.DocumentsOnly.refl store).mono fun _ _ hit => hit.elim
  | cons entry rest ih =>
    have first := documentsOnly_boundEntry site store owner isFunction doc entry
    refine (first.trans (ih _)).mono fun id old hit => ?_
    rcases hit with here | ⟨key, mem, later⟩
    · exact ⟨entry.1, List.mem_cons_self, here⟩
    · exact ⟨key, List.mem_cons_of_mem _ mem, first.documented? old later⟩

theorem documentsOnly_bindReturn (owner : ValueId) (doc : Comment.ReturnDoc) :
    Store.DocumentsOnly
      (fun id => doc.isDocumented = true ∧ (store.returnsOf owner).head? = some id) store
      ((bindReturn (m := StateM (Store δ)) (δ := δ) owner doc).run store).2 := by
  rw [run_bindReturn]
  split
  · rename_i documented
    have ensured := store.documentsOnly_ensureReturn owner doc.type
    generalize store.ensureReturn owner doc.type = made at ensured ⊢
    obtain ⟨grown, first⟩ := ensured
    rcases made with ⟨_ | id, after⟩
    · exact grown.mono fun _ _ hit => hit.elim
    · refine Store.DocumentsOnly.mono (grown.trans (after.documentsOnly_mergeInto id _))
        fun other old hit => ?_
      obtain rfl := hit.resolve_left not_false
      exact ⟨documented, first other rfl old⟩
  · exact (Store.DocumentsOnly.refl store).mono fun _ _ hit => hit.elim

/-- The values that a node's body comment reaches: what its keys name among the parameters
and properties of the node's value, and the first return of that value if the comment has a
passage on it. -/
def Site.Reaches (node : Node) (owner id : ValueId) : Prop :=
  ∃ comment, (node.kind = .function ∨ node.kind = .object) ∧
    site.bodyComment? node = some comment ∧
      ((∃ key ∈ (Comment.read comment none).entries.names,
          store.documented? owner (node.kind = .function) key = some id) ∨
        ((Comment.read comment none).returns.isDocumented = true ∧
          (store.returnsOf owner).head? = some id))

theorem documentsOnly_bodyFragment {node : Node} (owner : ValueId)
    (body : node.kind = .function ∨ node.kind = .object) :
    Store.DocumentsOnly (site.Reaches store node owner) store
      ((bodyFragment (δ := δ) inert site node owner).run store).2 := by
  rw [run_bodyFragment]
  cases found : site.bodyComment? node with
  | none => exact (Store.DocumentsOnly.refl store).mono fun _ _ hit => hit.elim
  | some comment =>
    simp only [run_bindEntries]
    have entries := documentsOnly_boundEntries site store owner (node.kind = .function)
      (Comment.read comment none) (Comment.read comment none).entries.entries
    refine (entries.trans (documentsOnly_bindReturn _ owner _)).mono fun id old hit => ?_
    refine ⟨comment, body, found, hit.imp_right fun last => ⟨last.1, ?_⟩⟩
    exact (entries.firstReturn owner id last.2).resolve_right (Nat.not_le.mpr old)

theorem documentsOnly_fragment (node : Node) (owner : ValueId) (context : Option NodeKind) :
    Store.DocumentsOnly (site.Reaches store node owner) store
      ((fragment (δ := δ) inert site node owner context).run store).2 := by
  have others {after : Store δ} (done : Store.DocumentsOnly (fun _ => False) store after) :
      Store.DocumentsOnly (site.Reaches store node owner) store after :=
    done.mono fun _ _ hit => hit.elim
  unfold fragment
  split
  · refine others ?_
    rw [run_parameterFragment]
    cases site.inlineComment? node with
    | none => exact .refl store
    | some comment => exact documentsOnly_resolve store _ _
  · exact others (.refl store)
  · exact documentsOnly_bodyFragment site store owner (.inl ‹_›)
  · exact documentsOnly_bodyFragment site store owner (.inr ‹_›)
  · refine others ?_
    rw [run_propertyFragment]
    cases site.propertyComment? node with
    | none => exact .refl store
    | some found => exact documentsOnly_resolve store _ _
  · exact others (.refl store)

/-- Documenting a node changes the documentation of the node's own value and of what its body
comment reaches, and of nothing else. -/
theorem documentsOnly_document (node : Node) (owner : ValueId) (context : Option NodeKind) :
    Store.DocumentsOnly (fun id => id = owner ∨ site.Reaches store node owner id) store
      ((document (δ := δ) inert site node owner context).run store).2 := by
  rw [run_document]
  exact Store.DocumentsOnly.mono
    ((documentsOnly_fragment site store node owner context).trans
      (Store.documentsOnly_mergeInto _ owner _)) fun _ _ hit => hit.symm

end Binding

end CommentDocs
