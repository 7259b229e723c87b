import CommentDocs.Proofs.Binding.Confinement
import CommentDocs.Proofs.Comment.Restricted

/-!
# What a key of a body comment documents

A body comment documents values by name: each of its keys leads to a parameter or a property, and
adds a record to its documentation. The type in the record is resolved when the key is bound. That
is after the keys before it, since they may add values that a type text names.

The keys of a comment differ, so at most one of them leads to a value that has one name only. The
others are bound before and after it and do not reach that value.
-/

namespace CommentDocs

open Binding Syntax Text

variable {δ : Type}

/-- The documentation of a value after one more fragment, if there is one. -/
def ValueDoc.mergeOption (doc : ValueDoc) : Option Fragment → ValueDoc
  | none => doc
  | some fragment => doc.merge fragment

namespace Binding

/-- What a type text is noted as in a scope: the value that it names, or the text. -/
def linked (store : Store δ) (scope : ScopeId) (type : Text) : TypeNote :=
  if type = [] then .text []
  else
    match resolution store scope type with
    | .unresolved => .text type
    | .moduleId id => .text id
    | .value id => .value id

variable (site : Site) (store : Store δ)

/-- The store in which the type under a key of a body comment is resolved: the keys before it have
been bound. -/
def Site.storeBefore (owner : ValueId) (isFunction : Bool) (doc : Comment.CommentDoc) (key : Text) :
    Store δ :=
  (doc.entries.entries.takeWhile fun entry => entry.1 ≠ key).foldl
    (fun store => boundEntry inert site store owner isFunction doc) store

/-- The record under a key of the body comment of a node, with its type as it is resolved when the
key is bound. -/
def Site.keyRecord? (node : Node) (owner : ValueId) (key : Text) : Option Fragment :=
  (site.bodyComment? node).bind fun comment =>
    let doc := Comment.read comment none
    (doc.entries.get? key).map fun entry =>
      .ofEntry entry (linked (site.storeBefore store owner (node.kind = .function) doc key)
        site.scope entry.type)

theorem fst_resolve (scope : ScopeId) (type : Text) :
    ((resolve (δ := δ) inert scope type).run store).1 = linked store scope type := by
  rw [run_resolve, linked]
  split
  · rfl
  · cases resolution store scope type <;> rfl

theorem doc?_resolve (scope : ScopeId) (type : Text) (id : ValueId) :
    ((resolve (δ := δ) inert scope type).run store).2.doc? id = store.doc? id := by
  rw [Store.doc?, value?_resolve, Store.doc?]

theorem isKeeping_inert : Evaluator.IsKeeping (inert (δ := δ)) := fun _ store => .refl store

variable {site store} {owner target : ValueId} {isFunction : Bool} {key : Text}

/-- A value that one key of an owner leads to, and no other key. -/
structure OwnKey (store : Store δ) (owner : ValueId) (isFunction : Bool) (key : Text)
    (target : ValueId) : Prop where
  known : target < store.nextId
  named : store.documented? owner isFunction key = some target
  only : ∀ other, store.documented? owner isFunction other = some target → other = key
  noReturn : (store.returnsOf owner).head? ≠ some target

/-- A key that leads to a value leads to it after another key was bound. -/
theorem documented?_boundEntry (named : store.documented? owner isFunction key = some target)
    (doc : Comment.CommentDoc) (entry : Text × Comment.EntryDoc) :
    (boundEntry inert site store owner isFunction doc entry).documented? owner isFunction key =
      some target := by
  have kept := keepsExcept_boundEntry site store isKeeping_inert owner isFunction doc entry
  have same := (documentsOnly_boundEntry site store owner isFunction doc entry).parameter owner key
  rw [Store.documented?_eq] at named ⊢
  rw [same]
  refine Option.or_eq_some_iff.mpr ((Option.or_eq_some_iff.mp named).imp_right ?_)
  rintro ⟨unnamed, property⟩
  refine ⟨unnamed, kept.property owner key target property ?_⟩
  -- a key that is bound anew led to nothing before
  rintro ⟨-, rfl, missing, -⟩
  rw [Store.documented?_eq, named] at missing
  cases missing

variable (site) in
/-- A value keeps its one name while a key is bound. -/
theorem OwnKey.boundEntry (own : OwnKey store owner isFunction key target)
    (doc : Comment.CommentDoc) (entry : Text × Comment.EntryDoc) :
    OwnKey (boundEntry inert site store owner isFunction doc entry) owner isFunction key
      target := by
  have changed := documentsOnly_boundEntry site store owner isFunction doc entry
  exact {
    known := Nat.lt_of_lt_of_le own.known changed.size
    named := documented?_boundEntry own.named doc entry
    only := fun other reached => own.only other (changed.documented? own.known reached)
    noReturn := fun first => own.noReturn
      ((changed.firstReturn owner target first).resolve_right (Nat.not_le.mpr own.known)) }

variable (site) in
theorem OwnKey.boundEntries (own : OwnKey store owner isFunction key target)
    (doc : Comment.CommentDoc) (entries : List (Text × Comment.EntryDoc)) :
    OwnKey (entries.foldl (fun store => Binding.boundEntry inert site store owner isFunction doc)
      store) owner isFunction key target := by
  induction entries generalizing store with
  | nil => exact own
  | cons entry rest ih => exact ih (own.boundEntry site doc entry)

/-- Keys other than its name leave a value. -/
theorem doc?_boundEntries_of_notMem (own : OwnKey store owner isFunction key target)
    (doc : Comment.CommentDoc) {entries : List (Text × Comment.EntryDoc)}
    (others : key ∉ entries.map (·.1)) :
    (entries.foldl (fun store => boundEntry inert site store owner isFunction doc) store).doc?
      target = store.doc? target := by
  have changed := documentsOnly_boundEntries site store owner isFunction doc entries
  refine changed.doc target own.known ?_
  rintro ⟨other, mem, reached⟩
  exact others (own.only other reached ▸ mem)

/-- The key that is its name merges its record into a value. -/
theorem doc?_boundEntry (own : OwnKey store owner isFunction key target)
    (doc : Comment.CommentDoc) (entry : Comment.EntryDoc) :
    (boundEntry inert site store owner isFunction doc (key, entry)).doc? target =
      (store.doc? target).map
        (·.merge (.ofEntry entry (linked store site.scope entry.type))) := by
  unfold boundEntry
  simp only [run_target, own.named, Store.doc?_mergeInto, doc?_resolve, fst_resolve]

/-- All keys of a comment together merge the record under its name into a value. -/
theorem doc?_boundEntries (own : OwnKey store owner isFunction key target)
    {doc : Comment.CommentDoc} (distinct : doc.entries.names.Nodup) :
    (doc.entries.entries.foldl (fun store => boundEntry inert site store owner isFunction doc)
        store).doc? target =
      (store.doc? target).map (·.mergeOption ((doc.entries.get? key).map fun entry =>
        .ofEntry entry (linked (site.storeBefore store owner isFunction doc key) site.scope
          entry.type))) := by
  cases found : doc.entries.get? key with
  | none =>
    rw [doc?_boundEntries_of_notMem own doc (Table.find?_eq_none_iff.mp found)]
    exact Option.map_id'.symm
  | some entry =>
    obtain ⟨after, split⟩ := Table.entries_eq_of_get? found
    let before := doc.entries.entries.takeWhile fun entry => entry.1 ≠ key
    have earlier : key ∉ before.map (·.1) := by
      intro mem
      obtain ⟨other, inside, rfl⟩ := List.mem_map.mp mem
      simpa using List.mem_takeWhile_imp inside
    have later : key ∉ after.map (·.1) := by
      rw [Table.names, split, List.map_append, List.map_cons] at distinct
      exact (List.nodup_cons.mp (List.nodup_append.mp distinct).2.1).1
    have reached := own.boundEntries site doc before
    have done := reached.boundEntry site doc (key, entry)
    rw [split, List.foldl_append, List.foldl_cons, doc?_boundEntries_of_notMem done doc later,
      doc?_boundEntry reached, doc?_boundEntries_of_notMem own doc earlier]
    rfl

/-- A value gets the record under its name in the body comment of its owner, and nothing else. -/
theorem doc?_document_literal {node : Node} (literal : node.kind = .function ∨ node.kind = .object)
    (own : OwnKey store owner (node.kind = .function) key target) (other : target ≠ owner)
    (context : Option NodeKind) :
    ((document (δ := δ) inert site node owner context).run store).2.doc? target =
      (store.doc? target).map (·.mergeOption (site.keyRecord? store node owner key)) := by
  rw [run_document, fragment_of_literal inert site literal, run_bodyFragment, Site.keyRecord?]
  cases site.bodyComment? node with
  | none =>
    dsimp only
    rw [Store.mergeInto_empty]
    exact Option.map_id'.symm
  | some comment =>
    simp only [run_bindEntries, Option.bind_some]
    have bound := own.boundEntries site (Comment.read comment none)
      (Comment.read comment none).entries.entries
    have returned := (documentsOnly_bindReturn _ owner (Comment.read comment none).returns).doc
      target bound.known fun first => bound.noReturn first.2
    rw [Store.mergeInto, Store.doc?_update_of_ne _ other, returned,
      doc?_boundEntries own (Comment.nodup_names_read comment)]

/-- The record in the comment block of a property, with its type as it is resolved now. -/
def Site.propertyRecord? (site : Site) (store : Store δ) (node : Node) : Option Fragment :=
  (site.propertyComment? node).map fun found =>
    let entry := (Comment.read found.2 (some found.1)).entry found.1
    .ofEntry entry (linked store site.scope entry.type)

variable (site store) in
/-- A member of an object gets the record of the comment block right before it. -/
theorem doc?_document_property {node : Node} (property : node.kind = .property) (owner : ValueId) :
    ((document (δ := δ) inert site node owner (some .object)).run store).2.doc? owner =
      (store.doc? owner).map (·.mergeOption (site.propertyRecord? store node)) := by
  have asProperty : fragment (m := StateM (Store δ)) (δ := δ) inert site node owner
      (some .object) = propertyFragment (δ := δ) inert site node := by
    unfold fragment
    rw [property]
  rw [run_document, asProperty, run_propertyFragment, Site.propertyRecord?]
  cases site.propertyComment? node with
  | none =>
    dsimp only
    rw [Store.mergeInto_empty]
    exact Option.map_id'.symm
  | some found =>
    dsimp only
    rw [Store.doc?_mergeInto, doc?_resolve, fst_resolve]
    rfl

def Site.propertyToken? (site : Site) (node : Node) : Option Token :=
  (site.preceding? node).filter fun token => node.keyName.any fun key =>
    key ≠ [] && token.kind = .lineComments && opensWithKey key token.text

def Site.bodyToken? (site : Site) (node : Node) : Option Token :=
  (bodySpan? node).bind fun span =>
    (site.stream.inside span)[1]?.filter fun token => token.kind = .lineComments

/-- The comments that document a member of an object literal: the one right before the member, and
the one after the opening brace of the literal. They may be one token. -/
def Site.memberComments (site : Site) (literal member : Node) : List Token :=
  (site.propertyToken? member).toList ++ (site.bodyToken? literal).toList

/-- The tags that a comment gives for a key in some reading. -/
def tagsFor (key : Text) (only : Option Text) (token : Token) : List Text :=
  ((Comment.read token.text only).entry key).tags

theorem propertyComment?_eq (node : Node) : site.propertyComment? node =
    (site.propertyToken? node).map fun token => (node.keyName.getD [], token.text) := by
  unfold Site.propertyComment? Site.propertyToken?
  cases node.keyName with
  | none => cases site.preceding? node <;> rfl
  | some key =>
    cases site.preceding? node with
    | none => rfl
    | some token =>
      rw [Option.filter_some]
      dsimp only [Option.any_some]
      split <;> rfl

theorem bodyComment?_eq (node : Node) :
    site.bodyComment? node = (site.bodyToken? node).map (·.text) := by
  unfold Site.bodyComment? Site.bodyToken?
  cases Site.bodySpan? node with
  | none => rfl
  | some span =>
    dsimp only [Option.bind_some]
    cases (site.stream.inside span)[1]? with
    | none => rfl
    | some token =>
      rw [Option.filter_some]
      simp only [decide_eq_true_eq]
      split <;> rfl

theorem tags_mergeOption (doc : ValueDoc) (fragment : Option Fragment) :
    (doc.mergeOption fragment).tags = doc.tags ++ fragment.elim [] (·.tags) := by
  cases fragment with
  | none => exact (List.append_nil _).symm
  | some fragment => rfl

/-- The comment block of a property gives the tags of its restricted reading. -/
theorem tags_propertyRecord? {node : Node} (keyed : node.keyName = some key) :
    (site.propertyRecord? store node).elim [] (·.tags) =
      (site.propertyToken? node).elim [] (tagsFor key (some key)) := by
  rw [Site.propertyRecord?, propertyComment?_eq, keyed]
  cases site.propertyToken? node <;> rfl

/-- A body comment gives the tags of its full reading. -/
theorem tags_keyRecord? {node : Node} :
    (site.keyRecord? store node owner key).elim [] (·.tags) =
      (site.bodyToken? node).elim [] (tagsFor key none) := by
  rw [Site.keyRecord?, bodyComment?_eq]
  cases site.bodyToken? node with
  | none => rfl
  | some token =>
    dsimp only [Option.map_some, Option.bind_some, Option.elim_some, tagsFor,
      Comment.CommentDoc.entry]
    cases (Comment.read token.text none).entries.get? key <;> rfl

/-- Unless the key is one of the value's own, both readings give the same tags. -/
theorem tagsFor_only (nonempty : key ≠ []) (other : Comment.ValueKey.ofWord? key = none)
    (token : Token) : tagsFor key (some key) token = tagsFor key none token := by
  rw [tagsFor, tagsFor, Comment.CommentDoc.entry, Comment.CommentDoc.entry,
    Comment.get?_entries_read_only other token.text nonempty]

/-- Together the comments of a member give their tags one after the other. -/
theorem tagsFor_memberComments (nonempty : key ≠ [])
    (other : Comment.ValueKey.ofWord? key = none) (literal member : Node) :
    (site.memberComments literal member).flatMap (tagsFor key none) =
      (site.propertyToken? member).elim [] (tagsFor key (some key)) ++
        (site.bodyToken? literal).elim [] (tagsFor key none) := by
  rw [Site.memberComments, List.flatMap_append]
  congr 1
  · cases site.propertyToken? member with
    | none => rfl
    | some token =>
      rw [Option.elim_some, tagsFor_only nonempty other]
      exact List.flatMap_singleton _ _
  · cases site.bodyToken? literal with
    | none => rfl
    | some token => exact List.flatMap_singleton _ _

end Binding

end CommentDocs
