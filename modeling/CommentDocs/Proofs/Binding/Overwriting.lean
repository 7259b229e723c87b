import CommentDocs.Proofs.Binding.Runs
import CommentDocs.Proofs.Graph.Keeping

/-!
# Which entries documentation overwrites

Documenting a node looks for the value that a key of its body comment documents among the
parameters and the properties of the node's own value, but puts the value that it makes for
a missing key on a function's prototype. So an entry of the graph is lost in one situation
only: a function has a prototype which binds a key that is neither a parameter nor a
property of the function itself. Everything else is kept, and returns only grow.

Completing a value may change the graph too. It is a parameter here, and what it keeps is a
hypothesis.
-/

namespace CommentDocs

open Binding Syntax

variable {δ : Type}

/-- Whether binding `key` puts a new value in the place of the property `name` of `id`: the
property is the key's own on the prototype of a function, and the function itself does not
know the key. -/
def Store.Overwrites (store : Store δ) (owner : ValueId) (isFunction : Bool) (key : Text)
    (id : ValueId) (name : Text) : Prop :=
  isFunction = true ∧ name = key ∧ store.documented? owner isFunction key = none ∧
    store.property? owner "prototype".toList = some id

namespace Store

variable (store : Store δ)

theorem property?_eq_none_of_documented? {owner : ValueId} {isFunction : Bool} {key : Text}
    (missing : store.documented? owner isFunction key = none) :
    store.property? owner key = none := by
  unfold documented? at missing
  unfold property?
  cases found : store.value? owner with
  | none => rfl
  | some value =>
    rw [found] at missing
    exact (Option.or_eq_none_iff.mp missing).2

/-- A new value under a key that no code mentions overwrites an entry only where a function's
prototype has the key already. -/
theorem keepsExcept_fabricate {owner : ValueId} {isFunction : Bool} {key : Text}
    (missing : store.documented? owner isFunction key = none) (type : Text) :
    KeepsExcept (store.Overwrites owner isFunction key) store
      (store.fabricate owner isFunction key type).2 := by
  have added := store.keeps_add { type }
  have absent := store.property?_eq_none_of_documented? missing
  unfold fabricate
  cases isFunction with
  | false =>
    refine ((KeepsExcept.setProperty _ added (Nat.le_refl _) owner key).trans_keeps
      (keeps_report _ _)).congr ?_
    intro id name target found
    refine ⟨fun lost => Bool.noConfusion lost.1, ?_⟩
    rintro ⟨rfl, rfl⟩
    rw [absent] at found
    cases found
  | true =>
    unfold ensurePrototype
    simp only [if_true]
    cases prototype : (store.add { type }).property? owner "prototype".toList with
    | some holder =>
      rw [store.property?_add rfl] at prototype
      refine ((KeepsExcept.setProperty _ added (Nat.le_refl _) holder key).trans_keeps
        (keeps_report _ _)).congr ?_
      intro id name target found
      simp only [Overwrites, missing, prototype, Option.some.injEq, true_and]
      exact ⟨fun lost => ⟨lost.2.symm, lost.1⟩, fun lost => ⟨lost.2, lost.1.symm⟩⟩
    | none =>
      -- the new prototype is no value of the store, so nothing can be overwritten on it
      have own : store.property? owner "prototype".toList = none :=
        (store.property?_add rfl owner _).symm.trans prototype
      have grown : store.Keeps ((store.add { type }).add { type := ModelType.object }) :=
        added.trans_keeps (keeps_add _ _)
      have attached :
        store.Keeps (((store.add { type }).add { type := ModelType.object }).setProperty
          owner "prototype".toList (store.add { type }).nextId) := by
        refine (KeepsExcept.setProperty _ grown (by simp) owner _).congr ?_
        rintro id name target found
        refine ⟨False.elim, ?_⟩
        rintro ⟨rfl, rfl⟩
        rw [own] at found
        cases found
      have rebound :=
        KeepsExcept.setProperty _ attached (Nat.le_refl _) (store.add { type }).nextId key
      refine (rebound.trans_keeps (keeps_report _ _)).congr ?_
      intro id name target found
      have old := store.lt_nextId_of_property? found
      simp only [Overwrites, own]
      refine ⟨fun lost => by simp at lost, ?_⟩
      rintro ⟨rfl, _⟩
      exact absurd old (by simp)

end Store

namespace Binding

variable (evaluate : Evaluator δ) (site : Site) (store : Store δ)

/-- Completing values keeps all entries and returns. -/
def Evaluator.IsKeeping (evaluate : Evaluator δ) : Prop :=
  ∀ id (store : Store δ), store.Keeps ((evaluate id).run store).2

variable {evaluate}

theorem keeps_resolve (keeping : evaluate.IsKeeping) (scope : ScopeId) (type : Text) :
    store.Keeps ((resolve (δ := δ) evaluate scope type).run store).2 := by
  rw [run_resolve]
  split
  · exact .refl store
  · split
    · exact store.keeps_report _
    · exact .refl store
    · exact keeping _ store

theorem keepsExcept_target (owner : ValueId) (isFunction : Bool) (doc : Comment.CommentDoc)
    (key : Text) :
    Store.KeepsExcept (store.Overwrites owner isFunction key) store
      ((target (m := StateM (Store δ)) δ owner isFunction doc key).run store).2 := by
  rw [run_target]
  cases known : store.documented? owner isFunction key with
  | none => exact store.keepsExcept_fabricate known _
  | some id =>
    refine (Store.KeepsExcept.refl store).congr fun _ _ _ _ => ?_
    simp [Store.Overwrites, known]

/-- One key overwrites at most what its missing target overwrites. -/
theorem keepsExcept_boundEntry (keeping : evaluate.IsKeeping) (owner : ValueId)
    (isFunction : Bool) (doc : Comment.CommentDoc) (entry : Text × Comment.EntryDoc) :
    Store.KeepsExcept (store.Overwrites owner isFunction entry.1) store
      (boundEntry evaluate site store owner isFunction doc entry) :=
  ((keepsExcept_target store owner isFunction doc entry.1).trans_keeps
    (keeps_resolve _ keeping site.scope entry.2.type)).trans_keeps
    (Store.keeps_mergeInto _ _ _)

variable (evaluate)

/-- The keys of a body comment, each with the store in which it is bound. -/
def bindingMoments (owner : ValueId) (isFunction : Bool) (doc : Comment.CommentDoc) :
    List (Text × Comment.EntryDoc) → Store δ → List (Text × Store δ)
  | [], _ => []
  | entry :: rest, store =>
    (entry.1, store) :: bindingMoments owner isFunction doc rest
      (boundEntry evaluate site store owner isFunction doc entry)

variable {evaluate}

theorem keepsExcept_boundEntries (keeping : evaluate.IsKeeping) (owner : ValueId)
    (isFunction : Bool) (doc : Comment.CommentDoc) (entries : List (Text × Comment.EntryDoc)) :
    Store.KeepsExcept
      (fun id name => ∃ moment ∈ bindingMoments evaluate site owner isFunction doc entries store,
        moment.2.Overwrites owner isFunction moment.1 id name) store
      (entries.foldl (fun store => boundEntry evaluate site store owner isFunction doc) store) := by
  induction entries generalizing store with
  | nil => exact (Store.KeepsExcept.refl store).congr fun _ _ _ _ => by simp [bindingMoments]
  | cons entry rest ih =>
    have first := keepsExcept_boundEntry site store keeping owner isFunction doc entry
    refine (first.trans (ih _)).congr fun _ _ _ _ => ?_
    simp only [bindingMoments, List.mem_cons, or_and_right, exists_or, exists_eq_left]

theorem keeps_bindReturn (owner : ValueId) (doc : Comment.ReturnDoc) :
    store.Keeps ((bindReturn (m := StateM (Store δ)) (δ := δ) owner doc).run store).2 := by
  rw [run_bindReturn]
  split
  · have ensured := store.keeps_ensureReturn owner doc.type
    generalize store.ensureReturn owner doc.type = made at ensured ⊢
    rcases made with ⟨_ | id, after⟩
    · exact ensured
    · exact ensured.trans_keeps (after.keeps_mergeInto _ _)
  · exact .refl store

variable (evaluate)

/-- Whether documenting a node puts a new value in the place of the property `name` of `id`:
a key of the node's body comment does when its turn comes. -/
def Replaces (node : Node) (owner : ValueId) (id : ValueId) (name : Text) : Prop :=
  ∃ comment, node.kind = .function ∧ site.bodyComment? node = some comment ∧
    ∃ moment ∈ bindingMoments evaluate site owner true (Comment.read comment none)
        (Comment.read comment none).entries.entries store,
      moment.2.Overwrites owner true moment.1 id name

variable {evaluate}

theorem keepsExcept_bodyFragment (keeping : evaluate.IsKeeping) {node : Node}
    (owner : ValueId) :
    Store.KeepsExcept (Replaces evaluate site store node owner) store
      ((bodyFragment (δ := δ) evaluate site node owner).run store).2 := by
  rw [run_bodyFragment]
  cases found : site.bodyComment? node with
  | none => exact (Store.KeepsExcept.refl store).congr fun _ _ _ _ => by simp [Replaces, found]
  | some comment =>
    simp only [run_bindEntries]
    have entries := keepsExcept_boundEntries site store keeping owner (node.kind = .function)
      (Comment.read comment none) (Comment.read comment none).entries.entries
    refine (entries.trans_keeps (keeps_bindReturn _ owner _)).congr fun id name _ _ => ?_
    by_cases isFunction : node.kind = .function
    · simp [Replaces, found, isFunction]
    · simp [Replaces, Store.Overwrites, isFunction]

theorem keepsExcept_fragment (keeping : evaluate.IsKeeping) (node : Node) (owner : ValueId)
    (context : Option NodeKind) :
    Store.KeepsExcept (Replaces evaluate site store node owner) store
      ((fragment (δ := δ) evaluate site node owner context).run store).2 := by
  have others {after : Store δ} (other : node.kind ≠ .function) (kept : store.Keeps after) :
      Store.KeepsExcept (Replaces evaluate site store node owner) store after :=
    kept.congr fun _ _ _ _ => by simp [Replaces, other]
  unfold fragment
  split
  · refine others (by simp [*]) ?_
    rw [run_parameterFragment]
    cases site.inlineComment? node with
    | none => exact .refl store
    | some comment => exact keeps_resolve store keeping _ _
  · exact others (by simp [*]) (.refl store)
  · exact keepsExcept_bodyFragment site store keeping owner
  · exact keepsExcept_bodyFragment site store keeping owner
  · refine others (by simp [*]) ?_
    rw [run_propertyFragment]
    cases site.propertyComment? node with
    | none => exact .refl store
    | some found => exact keeps_resolve store keeping _ _
  · exact others ‹node.kind = .function → False› (.refl store)

/-- A value that exists for a name is updated in place: documenting a node keeps every
parameter, every property and every list of returns, with one exception. A key of a
function's own body comment that is neither a parameter nor a property of the function
replaces the property of that name which the function's prototype has already. -/
theorem document_keeps_unless_replaced (keeping : evaluate.IsKeeping) (node : Node)
    (owner : ValueId) (context : Option NodeKind) :
    let after := ((document (δ := δ) evaluate site node owner context).run store).2
    (∀ id name target, store.parameter? id name = some target →
      after.parameter? id name = some target) ∧
    (∀ id name target, store.property? id name = some target → target < store.nextId →
      (after.property? id name = some target ↔ ¬ Replaces evaluate site store node owner id name)) ∧
    ∀ id, store.returnsOf id <+: after.returnsOf id := by
  have kept : Store.KeepsExcept (Replaces evaluate site store node owner) store
      ((document (δ := δ) evaluate site node owner context).run store).2 := by
    rw [run_document]
    exact (keepsExcept_fragment site store keeping node owner context).trans_keeps
      (Store.keeps_mergeInto _ _ _)
  exact ⟨kept.parameter, fun _ _ _ found exist => kept.property?_eq_iff found exist, kept.returns⟩

/-- A function with a parameter `a`, whose prototype has the properties `x` and `y`. -/
def prototypeStore : Store Nat where
  values :=
    [{ type := ModelType.function, parameters := .ofList [("a".toList, 3)],
       properties := .ofList [("prototype".toList, 1)] },
     { type := ModelType.object, properties := .ofList [("x".toList, 2), ("y".toList, 2)] },
     { origin := .label "n.js".toList, pending := some 7 }, {}]
  scopes := [{ bindings := .ofList [("N".toList, 2)] }]

/-- The source of a function whose body comment documents `a` and `x`. -/
def prototypeSite : Site where
  stream :=
    { text := "\x7b// a: N\n// x: String\n\x7d".toList
      tokens :=
        [⟨.code, "\x7b".toList, ⟨0, 1⟩⟩, ⟨.lineComments, " a: N\n x: String".toList, ⟨1, 22⟩⟩,
         ⟨.code, "\x7d".toList, ⟨23, 24⟩⟩] }
  scope := 0

def prototypeNode : Node :=
  { kind := .function, bodySpan := some ⟨0, 24⟩ }

/-- Completing a value takes its pending computation away and reports it. -/
def completing (id : ValueId) : StateM (Store Nat) Unit :=
  modify fun store =>
    (store.update id fun value => { value with pending := none }).report (.startedEvaluation id)

theorem isKeeping_completing : Evaluator.IsKeeping completing := by
  intro id store
  have cleared : store.Keeps (store.update id fun value => { value with pending := none }) :=
    store.keeps_update id fun _ => ⟨fun _ _ h => h, fun _ _ h => h, List.prefix_refl _⟩
  exact cleared.trans_keeps (Store.keeps_report _ _)

/-- The comment names `x` but the function itself does not, so the prototype's own `x` is
replaced, while `a` and `y` are kept. -/
theorem document_keeps_unless_replaced_prototype :
    Evaluator.IsKeeping completing ∧
      let after := ((document (δ := Nat) completing prototypeSite prototypeNode 0 none).run
        prototypeStore).2
      after.parameter? 0 "a".toList = some 3 ∧ after.property? 1 "y".toList = some 2 ∧
        Replaces completing prototypeSite prototypeStore prototypeNode 0 1 "x".toList := by
  have kept := document_keeps_unless_replaced prototypeSite prototypeStore isKeeping_completing
    prototypeNode 0 none
  refine ⟨isKeeping_completing, kept.1 0 _ 3 (by decide), ?_, ?_⟩
  · decide +kernel
  · refine Classical.byContradiction fun safe => ?_
    have same := (kept.2.1 1 "x".toList 2 (by decide) (by decide)).mpr safe
    exact absurd same (by decide +kernel)

/-- A value that exists for a name need not survive: a new value takes the place of `x`. -/
theorem document_replaces_prototype_property :
    prototypeStore.property? 1 "x".toList = some 2 ∧
      (((document (δ := Nat) completing prototypeSite prototypeNode 0 none).run
        prototypeStore).2.property? 1 "x".toList) = some 4 := by
  decide +kernel

end Binding

end CommentDocs
