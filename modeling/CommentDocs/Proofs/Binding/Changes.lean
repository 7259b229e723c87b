import CommentDocs.Proofs.Binding.Documenting
import CommentDocs.Proofs.Binding.Overwriting
import Mathlib.Logic.Relation

/-!
# The changes that a call makes

Documenting a node goes through few kinds of changes. Something is reported, documentation is
merged, a value is added, or a value that the call added is bound as a property or becomes the
first return. `Change` lists them with the conditions under which they are made, and
`changes_document` shows that a call makes no others. What a call keeps is then shown one
change at a time, without looking at the call again.

Only a body comment adds values. A link in merged documentation leads to a value that is worth
linking to, for that is the condition on which resolution answers a value.
-/

namespace CommentDocs

open Binding Syntax

variable {δ : Type}

/-- Whether a type text that names the value is replaced by the value. -/
structure Value.IsLinkable (value : Value δ) : Prop where
  type : value.type ≠ ModelType.undefined
  origin : value.origin.isKnown = true
  relatedModule : value.relatedModule = none

/-- A value without what documentation changes in it. -/
def Value.declaration (value : Value δ) : Value δ :=
  { value with doc := {}, properties := {}, returns := [] }

namespace Store

/-- What a value of the graph is apart from its documentation, properties and returns. -/
def declaration? (store : Store δ) (id : ValueId) : Option (Value δ) :=
  (store.value? id).map Value.declaration

/-- A value of the graph that is worth linking to. -/
def Offers (store : Store δ) (id : ValueId) : Prop :=
  ∃ value, store.value? id = some value ∧ value.IsLinkable

/-- A value with the declaration of a value is there as well. -/
theorem exists_of_declaration?_eq {before after : Store δ} {id : ValueId} {value : Value δ}
    (same : after.declaration? id = before.declaration? id)
    (found : before.value? id = some value) :
    ∃ other, after.value? id = some other ∧ other.declaration = value.declaration := by
  unfold declaration? at same
  rw [found] at same
  exact Option.map_eq_some_iff.mp same

end Store

namespace Binding

/-- A type text is replaced by a value only if that value is worth linking to. -/
theorem offers_of_resolution {store : Store δ} {scope : ScopeId} {type : Text} {id : ValueId}
    (resolved : resolution store scope type = .value id) : store.Offers id := by
  unfold resolution at resolved
  split at resolved
  · cases resolved
  · split at resolved
    · cases resolved
    · rename_i target _ value found
      unfold Resolution.ofValue at resolved
      split at resolved
      · cases resolved
      · rename_i useful
        split at resolved
        · cases resolved
        · rename_i standalone
          cases resolved
          simp only [Bool.or_eq_true, decide_eq_true_eq, Bool.not_eq_true', not_or,
            Bool.not_eq_false] at useful
          exact ⟨value, found, useful.1, useful.2, standalone⟩

theorem createdReturnType_mem (type : Text) : createdReturnType type ∈ ModelType.all := by
  unfold createdReturnType
  split
  · exact List.contains_iff_mem.mp ‹_›
  · exact List.mem_cons_self

/-- The node may have a body comment, and this is it. -/
structure Site.HasBodyComment (site : Site) (node : Node) (comment : Text) : Prop where
  body : node.kind = .function ∨ node.kind = .object
  found : site.bodyComment? node = some comment

/-- One change that is made while a node with the value `owner` is documented, in a graph
that had `base` values before the call. -/
inductive Change (site : Site) (node : Node) (owner base : ValueId) : Store δ → Store δ → Prop
  | report {store : Store δ} (event : Event) :
    Change site node owner base store (store.report event)
  | merge {store : Store δ} (id : ValueId) {fragment : Fragment}
      (offered : ∀ link, fragment.type = .value link → store.Offers link) :
      Change site node owner base store (store.mergeInto id fragment)
  | add {store : Store δ} {comment : Text} (commented : site.HasBodyComment node comment)
      (type : Text) : Change site node owner base store (store.add { type })
  /-- A value of this call becomes a property of `owner`, where none is replaced, or of its
  prototype. -/
  | bind {store : Store δ} {comment : Text} (commented : site.HasBodyComment node comment)
      {holder target : ValueId} {key : Text}
      (placed : owner < base →
        (holder = owner ∨
          node.kind = .function ∧ store.property? owner "prototype".toList = some holder) ∧
        (holder = owner → store.property? owner key = none))
      (new : base ≤ target) (added : target < store.nextId) :
      Change site node owner base store (store.setProperty holder key target)
  /-- A value of this call becomes the only return. -/
  | append {store : Store δ} {comment : Text} (commented : site.HasBodyComment node comment)
      (documented : (Comment.read comment none).returns.isDocumented = true)
      (first : store.returnsOf owner = []) {slot : ValueId} {made : Value δ} (new : base ≤ slot)
      (found : store.value? slot = some made) (typed : made.type ∈ ModelType.all) :
      Change site node owner base store (store.appendReturn owner slot)

abbrev Changes (site : Site) (node : Node) (owner base : ValueId) : Store δ → Store δ → Prop :=
  Relation.ReflTransGen (Change site node owner base)

section

variable {site : Site} {node : Node} {owner base : ValueId} {store after : Store δ}

theorem Change.size (change : Change site node owner base store after) :
    store.nextId ≤ after.nextId := by
  cases change <;> simp [Store.mergeInto]

theorem Changes.size (changes : Changes site node owner base store after) :
    store.nextId ≤ after.nextId := by
  induction changes with
  | refl => exact Nat.le_refl _
  | tail _ change ih => exact Nat.le_trans ih change.size

/-- Only documentation, properties and returns of a value change. -/
theorem Change.declaration?_eq (change : Change site node owner base store after)
    {id : ValueId} (old : id < store.nextId) : after.declaration? id = store.declaration? id := by
  cases change with
  | report event => rfl
  | add commented type =>
    unfold Store.declaration?
    rw [store.value?_add_of_lt old]
  | bind commented placed new added => exact store.map_value?_update _ _ fun _ => rfl
  | append commented documented first new found typed =>
    exact store.map_value?_update _ _ fun _ => rfl
  | merge other offered => exact store.map_value?_update _ _ fun _ => rfl

theorem Changes.declaration?_eq (changes : Changes site node owner base store after)
    {id : ValueId} (old : id < store.nextId) : after.declaration? id = store.declaration? id := by
  induction changes with
  | refl => rfl
  | tail former change ih =>
    exact (change.declaration?_eq (Nat.lt_of_lt_of_le old (Changes.size former))).trans ih

/-- The prototype of a function is found or made. -/
theorem changes_ensurePrototype {comment : Text} (commented : site.HasBodyComment node comment)
    (store : Store δ) (owner : ValueId) (grown : base ≤ store.nextId) :
    Changes site node owner base store (store.ensurePrototype owner).2 ∧
      (owner < base → (store.ensurePrototype owner).2.property? owner "prototype".toList =
        some (store.ensurePrototype owner).1) ∧
      ∀ key, owner < base → (store.ensurePrototype owner).1 = owner →
        (store.ensurePrototype owner).2.property? owner key = store.property? owner key := by
  unfold Store.ensurePrototype
  cases prototype : store.property? owner "prototype".toList with
  | some holder => exact ⟨.refl, fun _ => prototype, fun _ _ _ => rfl⟩
  | none =>
    have made : Changes site node owner base store (store.add { type := ModelType.object }) :=
      .single (.add commented _)
    have absent : (store.add { type := ModelType.object }).property? owner "prototype".toList =
        none := (store.property?_add rfl owner _).trans prototype
    refine ⟨made.tail (.bind commented (fun _ => ⟨.inl rfl, fun _ => absent⟩) grown ?_), ?_, ?_⟩
    · simp
    · intro known
      have present := Nat.lt_of_lt_of_le known (Nat.le_trans grown made.size)
      rw [Store.property?_setProperty, if_pos ⟨rfl, rfl, present⟩]
    · rintro key known (rfl : store.nextId = owner)
      exact absurd known (Nat.not_lt.mpr grown)

/-- A value for a missing key is added and bound where the key belongs. -/
theorem changes_fabricate {comment : Text} (commented : site.HasBodyComment node comment)
    (grown : base ≤ store.nextId) {key : Text}
    (missing : store.documented? owner (node.kind = .function) key = none) (type : Text) :
    Changes site node owner base store
      (store.fabricate owner (node.kind = .function) key type).2 := by
  have added : Changes site node owner base store (store.add { type }) :=
    .single (.add commented type)
  have absent : (store.add { type }).property? owner key = none :=
    (store.property?_add rfl owner key).trans (store.property?_eq_none_of_documented? missing)
  unfold Store.fabricate
  by_cases isFunction : node.kind = .function
  · simp only [isFunction, decide_true, if_true]
    obtain ⟨ensured, bound, own⟩ := changes_ensurePrototype commented (store.add { type }) owner
      (Nat.le_trans grown added.size)
    refine ((added.trans ensured).tail (.bind commented (fun known =>
      ⟨.inr ⟨isFunction, bound known⟩, fun same => (own key known same).trans absent⟩) grown
        ?_)).tail (.report _)
    exact Nat.lt_of_lt_of_le (by simp) ensured.size
  · simp only [isFunction, decide_false, Bool.false_eq_true, if_false]
    exact (added.tail (.bind commented (fun _ => ⟨.inl rfl, fun _ => absent⟩) grown
      (by simp))).tail (.report _)

theorem changes_target {comment : Text} (commented : site.HasBodyComment node comment)
    (owner : ValueId) (grown : base ≤ store.nextId) (doc : Comment.CommentDoc) (key : Text) :
    Changes site node owner base store
      ((target (m := StateM (Store δ)) δ owner (node.kind = .function) doc key).run store).2 := by
  rw [run_target]
  split
  · exact .refl
  · exact changes_fabricate commented grown ‹_› _

/-- The first return value is found or made. -/
theorem changes_ensureReturn {comment : Text} (commented : site.HasBodyComment node comment)
    (owner : ValueId) (documented : (Comment.read comment none).returns.isDocumented = true)
    (grown : base ≤ store.nextId) (type : Text) :
    Changes site node owner base store (store.ensureReturn owner type).2 := by
  unfold Store.ensureReturn
  split
  · exact .refl
  · rename_i value found
    split
    · exact .refl
    · rename_i none
      have added : Changes site node owner base store
          (store.add { type := createdReturnType type }) := .single (.add commented _)
      have first : (store.add { type := createdReturnType type }).returnsOf owner = [] := by
        unfold Store.returnsOf
        rw [store.value?_add_of_lt (store.lt_nextId found), found]
        exact none
      have made : (store.add { type := createdReturnType type }).value? store.nextId =
          some { type := createdReturnType type } := by
        rw [Store.value?_add, if_pos rfl]
      exact (added.tail (.append commented documented first grown made
        (createdReturnType_mem type))).tail (.report _)

/-- A fragment was found by changes, and what it links is worth linking to. -/
structure Yields (site : Site) (node : Node) (owner base : ValueId) (store : Store δ)
    (result : Fragment × Store δ) : Prop where
  changes : Changes site node owner base store result.2
  offered : ∀ link, result.1.type = .value link → result.2.Offers link

/-- Resolving a type text reports something or nothing. -/
theorem changes_resolve (site : Site) (node : Node) (owner base : ValueId) (store : Store δ)
    (scope : ScopeId) (type : Text) :
    let typed := (resolve (δ := δ) inert scope type).run store
    Changes site node owner base store typed.2 ∧
      ∀ link, typed.1 = .value link → typed.2.Offers link := by
  intro typed
  have run : typed = _ := run_resolve inert store scope type
  split at run
  · rw [run]
    exact ⟨.refl, fun _ same => TypeNote.noConfusion same⟩
  · split at run
    · rw [run]
      exact ⟨.single (.report _), fun _ same => TypeNote.noConfusion same⟩
    · rw [run]
      exact ⟨.refl, fun _ same => TypeNote.noConfusion same⟩
    · rename_i id resolved
      rw [run]
      refine ⟨.refl, fun link same => ?_⟩
      obtain rfl : id = link := TypeNote.value.inj same
      exact offers_of_resolution resolved

theorem changes_boundEntry {comment : Text} (commented : site.HasBodyComment node comment)
    (owner : ValueId) (grown : base ≤ store.nextId) (doc : Comment.CommentDoc)
    (entry : Text × Comment.EntryDoc) :
    Changes site node owner base store
      (boundEntry inert site store owner (node.kind = .function) doc entry) := by
  have found := changes_target commented owner grown doc entry.1
  obtain ⟨typed, offered⟩ := changes_resolve site node owner base _ site.scope entry.2.type
  exact (found.trans typed).tail (.merge _ offered)

theorem changes_boundEntries {comment : Text} (commented : site.HasBodyComment node comment)
    (owner : ValueId) (grown : base ≤ store.nextId) (doc : Comment.CommentDoc)
    (entries : List (Text × Comment.EntryDoc)) :
    Changes site node owner base store (entries.foldl
      (fun store => boundEntry inert site store owner (node.kind = .function) doc) store) := by
  induction entries generalizing store with
  | nil => exact .refl
  | cons entry rest ih =>
    have first := changes_boundEntry commented owner grown doc entry
    exact first.trans (ih (Nat.le_trans grown first.size))

theorem changes_bindReturn {comment : Text} (commented : site.HasBodyComment node comment)
    (owner : ValueId) (grown : base ≤ store.nextId) :
    Changes site node owner base store ((bindReturn (m := StateM (Store δ)) (δ := δ) owner
      (Comment.read comment none).returns).run store).2 := by
  rw [run_bindReturn]
  split
  · rename_i documented
    have ensured := changes_ensureReturn commented owner documented grown
      (Comment.read comment none).returns.type
    generalize store.ensureReturn owner _ = made at ensured ⊢
    rcases made with ⟨_ | id, after⟩
    · exact ensured
    · exact ensured.tail (.merge id fun _ same => TypeNote.noConfusion same)
  · exact .refl

theorem yields_bodyFragment (site : Site) (owner : ValueId)
    (body : node.kind = .function ∨ node.kind = .object) (grown : base ≤ store.nextId) :
    Yields site node owner base store
      ((bodyFragment (δ := δ) inert site node owner).run store) := by
  rw [run_bodyFragment]
  cases found : site.bodyComment? node with
  | none => exact ⟨.refl, fun _ same => TypeNote.noConfusion same⟩
  | some comment =>
    simp only [run_bindEntries]
    have commented : site.HasBodyComment node comment := ⟨body, found⟩
    have entries := changes_boundEntries commented owner grown
      (Comment.read comment none) (Comment.read comment none).entries.entries
    exact ⟨entries.trans (changes_bindReturn commented owner (Nat.le_trans grown entries.size)),
      fun _ same => TypeNote.noConfusion same⟩

/-- The comment of a return statement links nothing. -/
theorem type_returnFragment_ne (site : Site) (node : Node) (link : ValueId) :
    (returnFragment site node).type ≠ .value link := by
  unfold returnFragment
  split <;> exact TypeNote.noConfusion

theorem yields_fragment (site : Site) (node : Node) (owner : ValueId)
    (grown : base ≤ store.nextId) (context : Option NodeKind) :
    Yields site node owner base store
      ((fragment (δ := δ) inert site node owner context).run store) := by
  have nothing : Yields site node owner base store ({}, store) :=
    ⟨.refl, fun _ same => TypeNote.noConfusion same⟩
  unfold fragment
  split
  · rw [run_parameterFragment]
    cases site.inlineComment? node with
    | none => exact nothing
    | some comment =>
      obtain ⟨changes, offered⟩ := changes_resolve site node owner base store _ _
      exact ⟨changes, offered⟩
  · exact ⟨.refl, fun link same => absurd same (type_returnFragment_ne site node link)⟩
  · exact yields_bodyFragment site owner (.inl ‹_›) grown
  · exact yields_bodyFragment site owner (.inr ‹_›) grown
  · rw [run_propertyFragment]
    cases site.propertyComment? node with
    | none => exact nothing
    | some found =>
      obtain ⟨changes, offered⟩ := changes_resolve site node owner base store _ _
      exact ⟨changes, offered⟩
  · exact nothing

/-- A call makes changes of these kinds only. -/
theorem changes_document (site : Site) (node : Node) (owner : ValueId)
    (grown : base ≤ store.nextId) (context : Option NodeKind) :
    Changes site node owner base store
      ((document (δ := δ) inert site node owner context).run store).2 := by
  rw [run_document]
  obtain ⟨changes, offered⟩ := yields_fragment site node owner grown context
  exact changes.tail (.merge owner offered)

end

end Binding

end CommentDocs
