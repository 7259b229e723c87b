import CommentDocs.Proofs.Binding.KeyComment

/-!
# What documents a parameter

Two comments document a parameter: the block comment right before it, and the body comment of its
function, under the parameter's name. Each becomes a record whose type is resolved when the record
is merged.
-/

namespace CommentDocs

open Binding Syntax Text

variable {δ : Type}

namespace Binding

variable (site : Site) (store : Store δ)

/-- The block comment right before a node. -/
def Site.inlineToken? (node : Node) : Option Token :=
  (site.preceding? node).filter (·.kind = .blockComment)

/-- The inline comment of a node is the text of the block comment right before it. -/
theorem Site.inlineComment?_eq (node : Node) :
    site.inlineComment? node = (site.inlineToken? node).map (·.text) := by
  rw [inlineComment?, inlineToken?]
  cases site.preceding? node with
  | none => rfl
  | some token =>
    by_cases comment : token.kind = .blockComment
    · rw [Option.filter_some_pos (by simpa)]
      exact if_pos comment
    · rw [Option.filter_some_neg (by simpa)]
      exact if_neg comment

/-- The record in the block comment right before a node, with its type as it is resolved now. -/
def Site.inlineRecord? (node : Node) : Option Fragment :=
  (site.inlineComment? node).map fun comment =>
    { type := linked store site.scope (TypeExpr.withoutOptionalMark (undecorated comment))
      isOptional := comment.contains '?' }

/-- The store in which the type under a key of a function's body comment is resolved: the keys
before it have been bound. -/
def Site.storeAt (function : ValueId) (doc : Comment.CommentDoc) (key : Text) : Store δ :=
  (doc.entries.entries.takeWhile fun entry => entry.1 ≠ key).foldl
    (fun store => boundEntry inert site store function true doc) store

/-- The record under a key of the body comment of a function, with its type as it is resolved when
the key is bound. -/
def Site.bodyRecord? (node : Node) (function : ValueId) (key : Text) : Option Fragment :=
  (site.bodyComment? node).bind fun comment =>
    let doc := Comment.read comment none
    (doc.entries.get? key).map fun entry =>
      .ofEntry entry (linked (site.storeAt store function doc key) site.scope entry.type)

/-- A parameter gets the record of the block comment right before it. -/
theorem doc?_document_identifier {node : Node} (identifier : node.kind = .identifier)
    (owner : ValueId) :
    ((document (δ := δ) inert site node owner (some .function)).run store).2.doc? owner =
      (store.doc? owner).map (·.mergeOption (site.inlineRecord? store node)) := by
  have asParameter : fragment (m := StateM (Store δ)) (δ := δ) inert site node owner
      (some .function) = parameterFragment (δ := δ) inert site node := by
    unfold fragment
    rw [identifier]
  rw [run_document, asParameter, run_parameterFragment, Site.inlineRecord?]
  cases site.inlineComment? node with
  | none =>
    dsimp only
    rw [Store.mergeInto_empty]
    exact Option.map_id'.symm
  | some comment =>
    dsimp only
    rw [Store.doc?_mergeInto, doc?_resolve, fst_resolve]
    rfl

variable {site store} {function parameter : ValueId} {key : Text}

/-- A parameter of a function, known by one name only: no other key of the function leads to
it. -/
structure OwnParameter (store : Store δ) (function : ValueId) (key : Text) (parameter : ValueId) :
    Prop where
  known : parameter < store.nextId
  named : store.parameter? function key = some parameter
  only : ∀ other, store.documented? function true other = some parameter → other = key
  noReturn : (store.returnsOf function).head? ≠ some parameter

/-- A parameter is what its name leads to, among the keys of the function. -/
theorem OwnParameter.ownKey (own : OwnParameter store function key parameter) :
    OwnKey store function true key parameter where
  known := own.known
  named := by rw [Store.documented?_eq, if_pos rfl, own.named, Option.some_or]
  only := own.only
  noReturn := own.noReturn

/-- A parameter gets the record under its name in the body comment of its function, and nothing
else. -/
theorem doc?_document_function {node : Node} (kind : node.kind = .function)
    (own : OwnParameter store function key parameter) (other : parameter ≠ function)
    (context : Option NodeKind) :
    ((document (δ := δ) inert site node function context).run store).2.doc? parameter =
      (store.doc? parameter).map
        (·.mergeOption (site.bodyRecord? store node function key)) := by
  have isFunction : decide (node.kind = .function) = true := decide_eq_true kind
  have record : site.bodyRecord? store node function key =
      site.keyRecord? store node function key := by
    rw [Site.keyRecord?, isFunction]
    rfl
  have named : OwnKey store function (node.kind = .function) key parameter := by
    rw [isFunction]
    exact own.ownKey
  rw [record]
  exact doc?_document_literal (.inl kind) named other context

end Binding

end CommentDocs
