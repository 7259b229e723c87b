import CommentDocs.Proofs.Binding.Effects
import CommentDocs.Proofs.Comment.Sectionwise

/-!
# New values and the keys that name them

A call may add values, and a value that it adds carries documentation only if the comment
names it: by a key, under which the value is bound when the call is over, or as the first
return. A prototype that is made on the way stays undocumented, unless a key names it, too.

The keys of a comment differ, so what one key has bound is not bound again by a later one.
That carries the induction over the keys.
-/

namespace CommentDocs

open Binding Syntax

variable {δ : Type}

/-- The keys of a comment differ. -/
theorem Comment.nodup_names_read (comment : Text) :
    (Comment.read comment none).entries.names.Nodup := by
  cases block : Comment.Block.ofText? comment with
  | none =>
    unfold Comment.read
    rw [block]
    exact List.nodup_nil
  | some found =>
    rw [Comment.read_eq_ofPassages block]
    have names : ∀ (keys : List Text) (f : Text → Comment.EntryDoc),
        (Table.tabulate keys f).names = keys := fun keys f => by
      simp [Table.tabulate, Table.names, Function.comp_def]
    exact (names _ _).symm ▸ Table.nodup_eraseDups _

namespace Store

/-- The prototype of a value, if it has one, is a value of the graph. -/
def KnowsPrototype (store : Store δ) (owner : ValueId) : Prop :=
  ∀ holder, store.property? owner "prototype".toList = some holder → holder < store.nextId

/-- A key names a parameter of a function, a property of the value, or a property of the
function's prototype. -/
def Names (store : Store δ) (owner : ValueId) (isFunction : Bool) (key : Text) (id : ValueId) :
    Prop :=
  store.documented? owner isFunction key = some id ∨
    isFunction = true ∧ ∃ holder, store.property? owner "prototype".toList = some holder ∧
      store.property? holder key = some id

variable {store after : Store δ} {owner : ValueId} {isFunction : Bool} {key : Text} {id : ValueId}

/-- A key names the same value as long as parameters stay and the properties under the key
and of the function's prototype are kept. -/
theorem Names.keep (named : store.Names owner isFunction key id)
    (parameter : ∀ name, after.parameter? owner name = store.parameter? owner name)
    (property : ∀ holder target, store.property? holder key = some target →
      after.property? holder key = some target)
    (prototype : ∀ target, store.property? owner "prototype".toList = some target →
      after.property? owner "prototype".toList = some target) :
    after.Names owner isFunction key id := by
  rcases named with known | ⟨function, holder, found, bound⟩
  · refine .inl ?_
    rw [documented?_eq, Option.or_eq_some_iff, parameter] at *
    exact known.imp_right fun own => ⟨own.1, property owner id own.2⟩
  · exact .inr ⟨function, holder, prototype holder found, property holder id bound⟩

theorem Names.congr (named : store.Names owner isFunction key id)
    (parameter : ∀ holder name, after.parameter? holder name = store.parameter? holder name)
    (property : ∀ holder name, after.property? holder name = store.property? holder name) :
    after.Names owner isFunction key id :=
  named.keep (parameter owner) (fun holder _ found => (property holder key).trans found)
    fun _ found => (property owner _).trans found

/-- What overwrites entries under another key leaves the value that a key names. -/
theorem Names.keepsExcept (named : store.Names owner isFunction key id) {other : Text}
    (distinct : other ≠ key)
    (kept : KeepsExcept (store.Overwrites owner isFunction other) store after)
    (parameter : ∀ holder name, after.parameter? holder name = store.parameter? holder name) :
    after.Names owner isFunction key id := by
  refine named.keep (parameter owner) (fun holder target found => ?_) fun target found => ?_
  · exact kept.property holder key target found fun lost => distinct lost.2.1.symm
  · refine kept.property owner _ target found fun lost => ?_
    obtain ⟨_, rfl, missing, _⟩ := lost
    rw [store.property?_eq_none_of_documented? missing] at found
    cases found

/-- A value without documentation, when it is added, stays so. -/
theorem doc?_add_eq {type : Text} {doc : ValueDoc}
    (found : (store.add { type }).doc? id = some doc) : store.doc? id = some doc ∨ doc = {} := by
  unfold doc? at *
  rw [value?_add] at found
  split at found
  · cases found
    exact .inr rfl
  · exact .inl found

theorem doc?_ensurePrototype {doc : ValueDoc}
    (found : (store.ensurePrototype owner).2.doc? id = some doc) :
    store.doc? id = some doc ∨ doc = {} := by
  unfold ensurePrototype at found
  split at found
  · exact .inl found
  · rw [doc?_setProperty] at found
    exact doc?_add_eq found

theorem doc?_fabricate {type : Text} {doc : ValueDoc}
    (found : (store.fabricate owner isFunction key type).2.doc? id = some doc) :
    store.doc? id = some doc ∨ doc = {} := by
  have made : ((if isFunction then (store.add { type }).ensurePrototype owner
      else (owner, store.add { type })).2).doc? id = some doc := by
    rw [← found]
    exact (doc?_setProperty _ _ _ _ _).symm
  cases isFunction with
  | false => exact doc?_add_eq made
  | true =>
    rcases doc?_ensurePrototype made with old | new
    · exact doc?_add_eq old
    · exact .inr new

/-- A key whose value is missing names the value that is made for it. -/
theorem names_fabricate (known : owner < store.nextId)
    (prototype : store.KnowsPrototype owner)
    (missing : store.documented? owner isFunction key = none) (type : Text) :
    (store.fabricate owner isFunction key type).2.Names owner isFunction key
      (store.fabricate owner isFunction key type).1 := by
  have absent := store.property?_eq_none_of_documented? missing
  have added : store.nextId < (store.add { type }).nextId := by simp
  unfold fabricate
  cases isFunction with
  | false =>
    refine .inl ?_
    rw [documented?_eq]
    exact (store.add { type }).property?_setProperty _ _ _ _ _ |>.trans
      (if_pos ⟨rfl, rfl, Nat.lt_trans known added⟩)
  | true =>
    refine .inr ⟨rfl, ?_⟩
    simp only [if_true]
    unfold ensurePrototype
    cases found : (store.add { type }).property? owner "prototype".toList with
    | some holder =>
      rw [store.property?_add rfl] at found
      refine ⟨holder, ?_, ?_⟩
      · -- the key is another one, for it is no property of the function
        refine ((store.add { type }).property?_setProperty _ _ _ _ _).trans ?_
        rw [if_neg, store.property?_add rfl, found]
        rintro ⟨_, rfl, _⟩
        rw [absent] at found
        cases found
      · exact ((store.add { type }).property?_setProperty _ _ _ _ _).trans
          (if_pos ⟨rfl, rfl, Nat.lt_trans (prototype holder found) added⟩)
    | none =>
      refine ⟨(store.add { type }).nextId, ?_, ?_⟩
      · refine (property?_setProperty _ _ _ _ _ _).trans ?_
        rw [if_neg fun here => Nat.ne_of_lt (Nat.lt_trans known added) here.1]
        exact (property?_setProperty _ _ _ _ _ _).trans
          (if_pos ⟨rfl, rfl, by simpa using Nat.lt_succ_of_lt (Nat.lt_succ_of_lt known)⟩)
      · exact (property?_setProperty _ _ _ _ _ _).trans (if_pos ⟨rfl, rfl, by simp⟩)

/-- The first return is found or made, and nothing is documented by that. -/
theorem ensureReturn_spec (store : Store δ) (owner : ValueId) (type : Text) :
    (∀ first, (store.ensureReturn owner type).1 = some first →
        ((store.ensureReturn owner type).2.returnsOf owner).head? = some first) ∧
      (∀ id doc, (store.ensureReturn owner type).2.doc? id = some doc →
        store.doc? id = some doc ∨ doc = {}) ∧
      (∀ holder name, (store.ensureReturn owner type).2.parameter? holder name =
        store.parameter? holder name) ∧
      ∀ holder name, (store.ensureReturn owner type).2.property? holder name =
        store.property? holder name := by
  cases found : store.value? owner with
  | none =>
    have run : store.ensureReturn owner type = (none, store) := by rw [ensureReturn, found]
    rw [run]
    refine ⟨fun slot same => ?_, fun _ _ => .inl, fun _ _ => rfl, fun _ _ => rfl⟩
    cases same
  | some value =>
    have returned : store.returnsOf owner = value.returns := by rw [returnsOf, found]; rfl
    cases returns : value.returns with
    | cons first rest =>
      have run : store.ensureReturn owner type = (some first, store) := by
        simp only [ensureReturn, found, returns]
      rw [run]
      refine ⟨fun slot same => ?_, fun _ _ => .inl, fun _ _ => rfl, fun _ _ => rfl⟩
      rw [returned, returns, List.head?_cons, ← same]
    | nil =>
      let grown := store.add { type := createdReturnType type }
      have run : store.ensureReturn owner type = (some store.nextId,
          (grown.appendReturn owner store.nextId).report
            (.createdReturn (if type = [] then none else some type))) := by
        simp only [ensureReturn, found, returns, grown]
      rw [run]
      have present : owner < grown.nextId := by
        simpa [grown] using Nat.lt_succ_of_lt (store.lt_nextId found)
      have empty : grown.returnsOf owner = [] := by
        rw [returnsOf, store.value?_add_of_lt (store.lt_nextId found)]
        exact returned.trans returns
      refine ⟨fun slot same => ?_, fun id doc held => ?_, fun holder name => ?_,
        fun holder name => ?_⟩
      · have appended := grown.returnsOf_appendReturn owner store.nextId owner
        rw [if_pos ⟨rfl, present⟩, empty] at appended
        exact (congrArg List.head? appended).trans same
      · exact doc?_add_eq ((grown.doc?_appendReturn owner store.nextId id).symm.trans held)
      · exact (grown.parameter?_appendReturn _ _ _ _).trans (store.parameter?_add rfl holder name)
      · exact (grown.property?_appendReturn _ _ _ _).trans (store.property?_add rfl holder name)

end Store

namespace Binding

variable {site : Site} {node : Node} {store : Store δ} {owner : ValueId}

theorem names_target (known : owner < store.nextId)
    (prototype : store.KnowsPrototype owner) (isFunction : Bool) (doc : Comment.CommentDoc)
    (key : Text) :
    let found := (target (m := StateM (Store δ)) δ owner isFunction doc key).run store
    found.2.Names owner isFunction key found.1 ∧
      ∀ id doc, found.2.doc? id = some doc → store.doc? id = some doc ∨ doc = {} := by
  intro found
  have run : found = _ := run_target store owner isFunction doc key
  cases present : store.documented? owner isFunction key with
  | some id =>
    rw [present] at run
    rw [run]
    exact ⟨.inl present, fun _ _ => .inl⟩
  | none =>
    rw [present] at run
    rw [run]
    exact ⟨Store.names_fabricate known prototype present _, fun _ _ => Store.doc?_fabricate⟩

/-- Resolving a type text leaves all values as they are. -/
theorem value?_resolve (store : Store δ) (scope : ScopeId) (type : Text) (id : ValueId) :
    ((resolve (δ := δ) inert scope type).run store).2.value? id = store.value? id := by
  rw [run_resolve]
  split
  · rfl
  · split <;> rfl

/-- Values from `base` on have documentation only if they are named by the keys so far. -/
def NamedByKeys (owner : ValueId) (isFunction : Bool) (base : ValueId) (keys : List Text)
    (store : Store δ) : Prop :=
  ∀ id doc, base ≤ id → store.doc? id = some doc →
    doc = {} ∨ ∃ key ∈ keys, store.Names owner isFunction key id

/-- One more key documents the value that it names; what earlier keys name stays named. -/
theorem namedByKeys_boundEntry (site : Site) (known : owner < store.nextId)
    (prototype : store.KnowsPrototype owner)
    {isFunction : Bool} {base : ValueId} {keys : List Text} (doc : Comment.CommentDoc)
    {entry : Text × Comment.EntryDoc} (fresh : entry.1 ∉ keys)
    (former : NamedByKeys owner isFunction base keys store) :
    NamedByKeys owner isFunction base (keys ++ [entry.1])
      (boundEntry inert site store owner isFunction doc entry) := by
  intro id found new present
  obtain ⟨named, silent⟩ := names_target known prototype isFunction doc entry.1
  have inertKeeps : Evaluator.IsKeeping (δ := δ) inert := fun _ store => .refl store
  have kept := keepsExcept_boundEntry site store inertKeeps owner isFunction doc entry
  have parameters := (documentsOnly_boundEntry site store owner isFunction doc entry).parameter
  unfold boundEntry at present
  by_cases here : id = ((target (m := StateM (Store δ)) δ owner isFunction doc entry.1).run store).1
  · refine .inr ⟨entry.1, by simp, here ▸ named.congr (fun holder name => ?_) fun holder name => ?_⟩
    · refine (Store.parameter?_mergeInto _ _ _ _ _).trans ?_
      rw [Store.parameter?, value?_resolve, Store.parameter?]
    · refine (Store.property?_mergeInto _ _ _ _ _).trans ?_
      rw [Store.property?, value?_resolve, Store.property?]
  · rw [Store.mergeInto, Store.doc?_update_of_ne _ here, Store.doc?, value?_resolve] at present
    rcases silent id found present with old | empty
    · rcases former id found new old with empty | ⟨key, mem, earlier⟩
      · exact .inl empty
      · refine .inr ⟨key, List.mem_append_left _ mem, earlier.keepsExcept ?_ kept parameters⟩
        rintro rfl
        exact fresh mem
    · exact .inl empty

/-- All keys together document no new value but those that they name. -/
theorem namedByKeys_boundEntries {comment : Text} (commented : site.HasBodyComment node comment)
    {base : ValueId} (known : owner < store.nextId)
    (prototype : store.KnowsPrototype owner)
    (doc : Comment.CommentDoc) {entries : List (Text × Comment.EntryDoc)} {keys : List Text}
    (distinct : (keys ++ entries.map (·.1)).Nodup)
    (former : NamedByKeys owner (node.kind = .function) base keys store) :
    NamedByKeys owner (node.kind = .function) base (keys ++ entries.map (·.1))
      (entries.foldl (fun store =>
        boundEntry inert site store owner (node.kind = .function) doc) store) := by
  induction entries generalizing store keys with
  | nil => simpa using former
  | cons entry rest ih =>
    rw [List.map_cons, List.append_cons] at distinct ⊢
    have apart := (List.nodup_append.mp (List.nodup_append.mp distinct).1).2.2
    have fresh : entry.1 ∉ keys := fun mem => apart _ mem _ List.mem_cons_self rfl
    have changes := changes_boundEntry commented owner (Nat.le_refl store.nextId) doc entry
    exact ih (Nat.lt_of_lt_of_le known changes.size)
      (fun holder found => changes.property?_lt prototype found) distinct
      (namedByKeys_boundEntry site known prototype doc fresh former)

/-- Finding or making a first return documents nothing. -/
theorem NamedByKeys.ensureReturn {isFunction : Bool} {base : ValueId} {keys : List Text}
    (former : NamedByKeys owner isFunction base keys store) (type : Text) :
    NamedByKeys owner isFunction base keys (store.ensureReturn owner type).2 := by
  obtain ⟨_, silent, parameter, property⟩ := store.ensureReturn_spec owner type
  intro id doc new present
  rcases silent id doc present with old | empty
  · rcases former id doc new old with empty | ⟨key, mem, named⟩
    · exact .inl empty
    · exact .inr ⟨key, mem, named.congr parameter property⟩
  · exact .inl empty

/-- The return of a comment documents no new value but the first return. -/
theorem namedByKeys_bindReturn {isFunction : Bool} {base : ValueId} {keys : List Text}
    (former : NamedByKeys owner isFunction base keys store) (returns : Comment.ReturnDoc)
    {id : ValueId} {doc : ValueDoc} (new : base ≤ id)
    (present : ((bindReturn (m := StateM (Store δ)) (δ := δ) owner returns).run store).2.doc? id =
      some doc) :
    doc = {} ∨ (∃ key ∈ keys,
        ((bindReturn (m := StateM (Store δ)) (δ := δ) owner returns).run store).2.Names owner
          isFunction key id) ∨
      returns.isDocumented = true ∧
        (((bindReturn (m := StateM (Store δ)) (δ := δ) owner returns).run store).2.returnsOf
          owner).head? = some id := by
  rw [run_bindReturn] at *
  split at present
  · rename_i documented
    rw [if_pos documented]
    have first := (store.ensureReturn_spec owner returns.type).1
    have ensured := former.ensureReturn returns.type
    generalize store.ensureReturn owner returns.type = made at first ensured present ⊢
    obtain ⟨_ | slot, after⟩ := made
    · exact (ensured id doc new present).imp_right .inl
    · by_cases here : id = slot
      · subst here
        refine .inr (.inr ⟨documented, ?_⟩)
        exact (congrArg List.head? (after.returnsOf_mergeInto _ _ _)).trans (first id rfl)
      · have held := (after.doc?_update_of_ne here _).symm.trans present
        rcases ensured id doc new held with empty | ⟨key, mem, named⟩
        · exact .inl empty
        · refine .inr (.inl ⟨key, mem, named.congr (fun _ _ => ?_) fun _ _ => ?_⟩)
          · exact after.parameter?_mergeInto _ _ _ _
          · exact after.property?_mergeInto _ _ _ _
  · rename_i undocumented
    rw [if_neg undocumented]
    exact (former id doc new present).imp_right .inl

/-- What the comment says about a new value: a key names it, or it is the first return. -/
def DescribesNew (node : Node) (owner : ValueId) (comment : Text) (store : Store δ)
    (id : ValueId) : Prop :=
  (∃ key ∈ (Comment.read comment none).entries.names,
      store.Names owner (node.kind = .function) key id) ∨
    (Comment.read comment none).returns.isDocumented = true ∧
      (store.returnsOf owner).head? = some id

/-- A call documents a value that it adds only if the comment describes it. -/
theorem describesNew_bodyFragment (body : node.kind = .function ∨ node.kind = .object)
    (known : owner < store.nextId)
    (prototype : store.KnowsPrototype owner)
    {id : ValueId} {doc : ValueDoc} (new : store.nextId ≤ id)
    (present : ((bodyFragment (δ := δ) inert site node owner).run store).2.doc? id = some doc) :
    doc = {} ∨ ∃ comment, site.HasBodyComment node comment ∧ DescribesNew node owner comment
      ((bodyFragment (δ := δ) inert site node owner).run store).2 id := by
  have start : NamedByKeys owner (node.kind = .function) store.nextId [] store := by
    intro other held later known
    rw [Store.doc?, store.value?_eq_none_iff.mpr later] at known
    cases known
  rw [run_bodyFragment] at *
  cases found : site.bodyComment? node with
  | none =>
    rw [found] at present
    rcases start id doc new present with empty | ⟨key, mem, named⟩
    · exact .inl empty
    · cases mem
  | some comment =>
    simp only [found, run_bindEntries] at present ⊢
    have commented : site.HasBodyComment node comment := ⟨body, found⟩
    have named := namedByKeys_boundEntries commented known prototype (Comment.read comment none)
      (Comment.nodup_names_read comment) start
    exact (namedByKeys_bindReturn named _ new present).imp_right fun described =>
      ⟨comment, commented, described⟩

end Binding

end CommentDocs
