import CommentDocs.Binding.Basic

/-!
# Binding as changes of a store

Binding is written for any state that holds a store. Here the state is the store itself and
completing a value is any change of it, so each part of a call is a function from the store
before to the store after. The equations below open the monad once; later proofs use them
and never unfold a `do` block.
-/

namespace CommentDocs.Binding

open Text Syntax

variable {δ : Type}

/-- A way to complete values: what completing a value does to the store. -/
abbrev Evaluator (δ : Type) := ValueId → StateM (Store δ) Unit

variable (evaluate : Evaluator δ) (site : Site) (store : Store δ)

theorem run_get : (getThe (Store δ) : StateM (Store δ) (Store δ)).run store = pure (store, store) :=
  rfl

theorem run_resolve (scope : ScopeId) (type : Text) :
    (resolve (δ := δ) evaluate scope type).run store =
      if type = [] then (TypeNote.text [], store)
      else
        match resolution store scope type with
        | .unresolved => (.text type, store.report (.unresolvedType type))
        | .moduleId id => (.text id, store)
        | .value id => (.value id, ((evaluate id).run store).2) := by
  unfold resolve
  split
  · rfl
  · simp only [StateT.run_bind, run_get, pure_bind]
    cases resolution store scope type <;> rfl

theorem run_target (owner : ValueId) (isFunction : Bool) (doc : Comment.CommentDoc) (key : Text) :
    (target (m := StateM (Store δ)) δ owner isFunction doc key).run store =
      match store.documented? owner isFunction key with
      | some id => (id, store)
      | none => store.fabricate owner isFunction key (fabricatedType doc) := by
  unfold target
  simp only [StateT.run_bind, run_get, pure_bind]
  cases store.documented? owner isFunction key <;> rfl

/-- The store after one key of a body comment: its target is found or made, its type is
resolved, and its documentation is merged. -/
def boundEntry (owner : ValueId) (isFunction : Bool) (doc : Comment.CommentDoc)
    (entry : Text × Comment.EntryDoc) : Store δ :=
  let found := (target (m := StateM (Store δ)) δ owner isFunction doc entry.1).run store
  let typed := (resolve (δ := δ) evaluate site.scope entry.2.type).run found.2
  typed.2.mergeInto found.1 (.ofEntry entry.2 typed.1)

theorem run_bindEntries (owner : ValueId) (isFunction : Bool) (doc : Comment.CommentDoc)
    (entries : List (Text × Comment.EntryDoc)) :
    (bindEntries (δ := δ) evaluate site owner isFunction doc entries).run store =
      ((), entries.foldl
        (fun store => boundEntry evaluate site store owner isFunction doc) store) := by
  induction entries generalizing store with
  | nil => rfl
  | cons entry rest ih => exact ih (boundEntry evaluate site store owner isFunction doc entry)

theorem run_bindReturn (owner : ValueId) (doc : Comment.ReturnDoc) :
    (bindReturn (m := StateM (Store δ)) (δ := δ) owner doc).run store =
      if doc.isDocumented then
        match store.ensureReturn owner doc.type with
        | (some id, store) => ((), store.mergeInto id (.ofReturn doc))
        | (none, store) => ((), store)
      else ((), store) := by
  unfold bindReturn
  split
  · simp only [StateT.run_bind, run_get, pure_bind]
    rcases store.ensureReturn owner doc.type with ⟨_ | id, after⟩ <;> rfl
  · rfl

theorem run_bodyFragment (node : Node) (owner : ValueId) :
    (bodyFragment (δ := δ) evaluate site node owner).run store =
      match site.bodyComment? node with
      | none => (({} : Fragment), store)
      | some comment =>
        let doc := Comment.read comment none
        let entries := (bindEntries (δ := δ) evaluate site owner (node.kind = .function) doc
          doc.entries.entries).run store
        (.ofComment doc,
          ((bindReturn (m := StateM (Store δ)) (δ := δ) owner doc.returns).run entries.2).2) := by
  unfold bodyFragment
  cases site.bodyComment? node <;> rfl

theorem run_parameterFragment (node : Node) :
    (parameterFragment (δ := δ) evaluate site node).run store =
      match site.inlineComment? node with
      | none => (({} : Fragment), store)
      | some comment =>
        let typed := (resolve (δ := δ) evaluate site.scope
          (TypeExpr.withoutOptionalMark (undecorated comment))).run store
        ({ type := typed.1, isOptional := comment.contains '?' }, typed.2) := by
  unfold parameterFragment
  cases site.inlineComment? node <;> rfl

theorem run_propertyFragment (node : Node) :
    (propertyFragment (δ := δ) evaluate site node).run store =
      match site.propertyComment? node with
      | none => (({} : Fragment), store)
      | some (key, comment) =>
        let doc := (Comment.read comment (some key)).entry key
        let typed := (resolve (δ := δ) evaluate site.scope doc.type).run store
        (.ofEntry doc typed.1, typed.2) := by
  unfold propertyFragment
  cases site.propertyComment? node <;> rfl

/-- A function or an object is documented by its body comment. -/
theorem fragment_of_literal {node : Node} (literal : node.kind = .function ∨ node.kind = .object)
    (owner : ValueId) (context : Option NodeKind) :
    fragment (m := StateM (Store δ)) (δ := δ) evaluate site node owner context =
      bodyFragment (δ := δ) evaluate site node owner := by
  unfold fragment
  rcases literal with kind | kind <;> rw [kind]

theorem run_document (node : Node) (owner : ValueId) (context : Option NodeKind) :
    (document (δ := δ) evaluate site node owner context).run store =
      let found := (fragment (δ := δ) evaluate site node owner context).run store
      ((), found.2.mergeInto owner found.1) := rfl

end CommentDocs.Binding
