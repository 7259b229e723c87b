import CommentDocs.Proofs.Binding.Naming

/-!
# What a call is confined to

The laws of changes and of new values come together: `Confined` lists all that may differ
after a node has been documented. Without a body comment that is the documentation of the
node's own value, and where there is nothing to say the graph stays as it is.
-/

namespace CommentDocs

open Binding Syntax

variable {δ : Type}

theorem ValueDoc.merge_empty (doc : ValueDoc) : doc.merge {} = doc := by
  have blank : Text.isVisible [] = false := rfl
  simp [ValueDoc.merge, Merge.type, Merge.text, Merge.list, Merge.flag, TypeNote.isPresent, blank]

/-- Merging an empty fragment changes nothing. -/
theorem Store.mergeInto_empty (store : Store δ) (id : ValueId) : store.mergeInto id {} = store := by
  have same : (fun value : Value δ => { value with doc := value.doc.merge {} }) =
      fun value => value := funext fun value => by rw [ValueDoc.merge_empty]
  unfold mergeInto update
  rw [same]
  exact congrArg (fun values => { store with values }) (List.modify_id _ _)

namespace Binding

variable {site : Site} {node : Node} {owner : ValueId}

/-- Resolving changes nothing if it finds no type. -/
theorem resolve_of_empty {store : Store δ} {scope : ScopeId} {type : Text}
    (empty : ((resolve (δ := δ) inert scope type).run store).1 = .text []) :
    ((resolve (δ := δ) inert scope type).run store).2 = store := by
  rw [run_resolve] at *
  split
  · rfl
  · rename_i given
    rw [if_neg given] at empty
    split at empty
    · exact absurd (TypeNote.text.inj empty) given
    · rfl
    · rfl

/-- A call finds something only by a body comment or by a comment that says something. -/
theorem fragment_of_empty {store : Store δ} {context : Option NodeKind}
    (uncommented : ∀ comment, ¬ site.HasBodyComment node comment)
    (empty : ((fragment (δ := δ) inert site node owner context).run store).1 = {}) :
    ((fragment (δ := δ) inert site node owner context).run store).2 = store := by
  have bodiless (body : node.kind = .function ∨ node.kind = .object) :
      ((bodyFragment (δ := δ) inert site node owner).run store).2 = store := by
    have missing : site.bodyComment? node = none :=
      Option.eq_none_iff_forall_ne_some.mpr fun comment found => uncommented comment ⟨body, found⟩
    rw [run_bodyFragment, missing]
  revert empty
  unfold fragment
  split
  · rw [run_parameterFragment]
    cases site.inlineComment? node with
    | none => exact fun _ => rfl
    | some comment => exact fun empty => resolve_of_empty (congrArg Fragment.type empty)
  · exact fun _ => rfl
  · exact fun _ => bodiless (.inl ‹_›)
  · exact fun _ => bodiless (.inr ‹_›)
  · rw [run_propertyFragment]
    cases site.propertyComment? node with
    | none => exact fun _ => rfl
    | some found => exact fun empty => resolve_of_empty (congrArg Fragment.type empty)
  · exact fun _ => rfl

/-- Documenting a node of which no comment says anything changes nothing. -/
theorem document_of_empty {store : Store δ} {context : Option NodeKind}
    (uncommented : ∀ comment, ¬ site.HasBodyComment node comment)
    (empty : ((fragment (δ := δ) inert site node owner context).run store).1 = {}) :
    ((document (δ := δ) inert site node owner context).run store).2 = store := by
  rw [run_document]
  dsimp only
  rw [empty, Store.mergeInto_empty, fragment_of_empty uncommented empty]

/-- The nodes that a comment may document, given the literal around them. -/
def Dispatches (kind : NodeKind) (context : Option NodeKind) : Prop :=
  kind = .identifier ∧ context = some .function ∨ kind = .returning ∨ kind = .function ∨
    kind = .object ∨ kind = .property ∧ context = some .object

instance (kind : NodeKind) (context : Option NodeKind) : Decidable (Dispatches kind context) :=
  inferInstanceAs (Decidable (_ ∨ _))

/-- Documenting any other node changes nothing. -/
theorem document_of_not_dispatches (store : Store δ) {context : Option NodeKind}
    (other : ¬ Dispatches node.kind context) :
    ((document (δ := δ) inert site node owner context).run store).2 = store := by
  refine document_of_empty (fun comment commented => other ?_) ?_
  · exact .inr (.inr (commented.body.imp_right .inl))
  · simp only [Dispatches, not_or, not_and] at other
    unfold fragment
    split
    case h_6 => rfl
    all_goals simp_all

example : ¬ Dispatches .identifier (some .object) := by decide

/-- What a call may change. -/
structure Confined (site : Site) (node : Node) (owner : ValueId) (before after : Store δ) :
    Prop where
  /-- No value is lost. -/
  size : before.nextId ≤ after.nextId
  /-- Names stay bound to what they are bound to. -/
  scopes : after.scopes = before.scopes
  /-- Type, name, origin, related module, parameters and pending computation stay. -/
  declaration : ∀ id, id < before.nextId → after.declaration? id = before.declaration? id
  /-- Documentation changes for the node's own value and for what its body comment reaches. -/
  doc : ∀ id, id < before.nextId → after.doc? id ≠ before.doc? id →
    id = owner ∨ site.Reaches before node owner id
  /-- Properties change, by a body comment, for that value and the prototype of a function. -/
  properties : ∀ id, id < before.nextId →
    after.propertiesOf id ≠ before.propertiesOf id → MayBindIn site node owner before id
  /-- Returns change for that value only, which gets a first one if the comment documents it. -/
  returns : ∀ id, id < before.nextId → after.returnsOf id ≠ before.returnsOf id →
    id = owner ∧ ∃ slot, MakesReturn site node owner before.nextId before after slot
  /-- Values are added by a body comment, and documented if it describes them. -/
  newcomer : ∀ id value, before.nextId ≤ id → after.value? id = some value →
    Newcomer site node owner after id value ∧
      (value.doc = {} ∨ ∃ comment, site.HasBodyComment node comment ∧
        DescribesNew node owner comment after id)

theorem describesNew_document {store : Store δ} {context : Option NodeKind}
    (known : owner < store.nextId)
    (prototype : store.KnowsPrototype owner)
    (body : node.kind = .function ∨ node.kind = .object) {id : ValueId} {value : Value δ}
    (new : store.nextId ≤ id)
    (found :
      ((document (δ := δ) inert site node owner context).run store).2.value? id = some value) :
    value.doc = {} ∨ ∃ comment, site.HasBodyComment node comment ∧ DescribesNew node owner comment
      ((document (δ := δ) inert site node owner context).run store).2 id := by
  rw [run_document, fragment_of_literal inert site body] at found ⊢
  dsimp only at found ⊢
  have other : id ≠ owner := Nat.ne_of_gt (Nat.lt_of_lt_of_le known new)
  rw [Store.mergeInto, Store.value?_update, if_neg other] at found
  have described := describesNew_bodyFragment body known prototype new
    (congrArg (Option.map Value.doc) found)
  rcases described with empty | ⟨comment, commented, ⟨key, mem, named⟩ | ⟨documented, first⟩⟩
  · exact .inl empty
  · refine .inr ⟨comment, commented, .inl ⟨key, mem, named.congr (fun _ _ => ?_) fun _ _ => ?_⟩⟩
    · exact Store.parameter?_mergeInto _ _ _ _ _
    · exact Store.property?_mergeInto _ _ _ _ _
  · refine .inr ⟨comment, commented, .inr ⟨documented, ?_⟩⟩
    exact (congrArg List.head? (Store.returnsOf_mergeInto _ _ _ _)).trans first

/-- Documenting a node changes no more than that. -/
theorem confined_document {store : Store δ} (known : owner < store.nextId)
    (prototype : store.KnowsPrototype owner) (context : Option NodeKind) :
    Confined site node owner store
      ((document (δ := δ) inert site node owner context).run store).2 := by
  have changes := changes_document site node owner (Nat.le_refl store.nextId) context
  have documents := documentsOnly_document site store node owner context
  exact {
    size := changes.size
    scopes := changes.scopes
    declaration := fun id old => changes.declaration?_eq old
    doc := fun id old differs => by
      exact Classical.byContradiction fun spared => differs (documents.doc id old spared)
    properties := fun id old differs => (changes.propertiesOf known old).resolve_left differs
    returns := fun id old differs => (changes.returnsOf known old).resolve_left differs
    newcomer := fun id value new found => by
      have newcomer := changes.newcomer known new found
      obtain ⟨comment, commented⟩ := newcomer.commented
      exact ⟨newcomer, describesNew_document known prototype commented.body new found⟩ }

end Binding

end CommentDocs
