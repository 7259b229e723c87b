import CommentDocs.Proofs.Binding.Overwriting
import CommentDocs.Proofs.Graph.Views

/-!
# Type texts that spell a path

A type text names a value by a dotted path, and marks such as `?` and `[]` may follow it. The
marks are dropped and the dots are cut, so exactly the spelled names are looked up: the first
one in the nearest scope that binds it, the others along properties. A record whose type is
linked in this way keeps everything but its type, whatever the path leads to.
-/

namespace CommentDocs

open Binding Syntax Text

variable {δ : Type}

/-- The scopes in which a name is looked up from a scope on: the scope itself, its parent, and
so on to a scope without a parent. A parent was made before the scopes inside it. -/
inductive Store.ScopeChain (store : Store δ) : ScopeId → List Scope → Prop where
  | outermost {id : ScopeId} {scope : Scope} (found : store.scopes[id]? = some scope)
      (last : scope.parent = none) : store.ScopeChain id [scope]
  | inside {id parent : ScopeId} {scope : Scope} {outer : List Scope}
      (found : store.scopes[id]? = some scope) (next : scope.parent = some parent)
      (older : parent < id) (rest : store.ScopeChain parent outer) :
      store.ScopeChain id (scope :: outer)

namespace Store

variable {store : Store δ} {scope : ScopeId} {scopes : List Scope}

/-- Where every parent was made before its scope, every scope has a chain. -/
theorem exists_scopeChain
    (ordered : ∀ (id : ScopeId) (scope : Scope) (parent : ScopeId),
      store.scopes[id]? = some scope → scope.parent = some parent → parent < id)
    {id : ScopeId} (present : id < store.scopes.length) :
    ∃ scopes, store.ScopeChain id scopes := by
  induction id using Nat.strongRecOn with
  | ind id ih =>
    have found : store.scopes[id]? = some store.scopes[id] := List.getElem?_eq_getElem present
    cases parent : store.scopes[id].parent with
    | none => exact ⟨_, .outermost found parent⟩
    | some outer =>
      have older : outer < id := ordered id _ outer found parent
      obtain ⟨rest, chain⟩ := ih outer older (Nat.lt_trans older present)
      exact ⟨_, .inside found parent older chain⟩

/-- A name has the value that the nearest scope gives it. -/
theorem lookup?_eq_findSome? (chain : store.ScopeChain scope scopes) (name : Text) :
    store.lookup? scope name = scopes.findSome? fun scope => scope.bindings.get? name := by
  induction chain with
  | outermost found last =>
    rw [lookup?, found]
    dsimp only
    rw [last, List.findSome?_cons]
    split <;> simp [*]
  | inside found next older _ ih =>
    rw [lookup?, found]
    dsimp only
    rw [next, List.findSome?_cons, ← ih]
    dsimp only
    rw [if_pos older]
    split <;> simp [*]

theorem follow?_append (start : Option ValueId) (names more : List Text) :
    store.follow? start (names ++ more) = store.follow? (store.follow? start names) more :=
  List.foldl_append

/-- A longer path goes on from where the shorter one leads. -/
theorem reach?_append (scope : ScopeId) (name : Text) (names more : List Text) :
    store.reach? scope (name :: names ++ more) =
      store.follow? (store.reach? scope (name :: names)) more := by
  rw [List.cons_append, reach?, reach?]
  split
  · have nowhere : store.follow? none more = none := by
      induction more with
      | nil => rfl
      | cons next more ih => exact ih
    exact nowhere.symm
  · exact follow?_append _ names more

theorem reach?_eq_follow? (chain : store.ScopeChain scope scopes) {head : Text} (named : head ≠ [])
    (rest : List Text) :
    store.reach? scope (head :: rest) =
      store.follow? (scopes.findSome? fun scope => scope.bindings.get? head) rest := by
  rw [reach?, if_neg named, lookup?_eq_findSome? chain]

end Store

namespace TypeExpr

/-- Names that a type text can spell as a path: none has a dot, the first is not empty, and the
last ends in a character of a name. -/
structure IsDotted (head : Text) (rest : List Text) : Prop where
  plain : ∀ name ∈ head :: rest, '.' ∉ name
  named : head ≠ []
  ends : ∃ last c, (head :: rest).getLast? = some last ∧ last.getLast? = some c ∧
    (isWord c = true ∨ c = '$')

/-- A text with its names joined by dots, and marks behind it, spells just these names. -/
theorem path_eq {head : Text} {rest : List Text} (dotted : IsDotted head rest) {marks : Text}
    (unnamed : ∀ c ∈ marks, isPathChar c = false) :
    path (joinWith '.' (head :: rest) ++ marks) = head :: rest := by
  obtain ⟨last, c, ends, visible, word⟩ := dotted.ends
  have kept : isPathChar c = true := by
    rcases word with word | rfl
    · simp [isPathChar, word]
    · rfl
  have trimmed : dropWhileEnd (fun c => !isPathChar c) (joinWith '.' (head :: rest) ++ marks) =
      joinWith '.' (head :: rest) := by
    rw [dropWhileEnd_append fun c mem => by simp [unnamed c mem]]
    apply dropWhileEnd_of_kept
    intro d mem
    obtain rfl : c = d :=
      Option.some.inj ((getLast?_joinWith '.' ends visible).symm.trans (Option.mem_def.mp mem))
    simp [kept]
  rw [path, trimmed]
  exact splitOn_joinWith (List.cons_ne_nil head rest) dotted.plain

theorem IsDotted.joinWith_ne_nil {head : Text} {rest : List Text} (dotted : IsDotted head rest) :
    joinWith '.' (head :: rest) ≠ [] := by
  intro empty
  obtain ⟨last, c, ends, visible, _⟩ := dotted.ends
  have last := getLast?_joinWith '.' ends visible
  rw [empty] at last
  cases last

end TypeExpr

namespace Binding

section

variable {m : Type → Type} [Monad m] [MonadStateOf (Store δ) m]

/-- Link the type of a record, if it is a text; the rest of the record stays. -/
def annotate (evaluate : ValueId → m Unit) (scope : ScopeId) (record : Fragment) : m Fragment := do
  match record.type with
  | .text type => return { record with type := ← resolve (δ := δ) evaluate scope type }
  | _ => return record

variable (evaluate : ValueId → m Unit) (site : Site)

/-- A parameter is documented by a record that holds what its comment says, once its type is
linked. -/
theorem parameterFragment_eq (node : Node) :
    parameterFragment (δ := δ) evaluate site node =
      match site.inlineComment? node with
      | none => pure {}
      | some comment =>
        annotate (δ := δ) evaluate site.scope
          { type := .text (TypeExpr.withoutOptionalMark (undecorated comment))
            isOptional := comment.contains '?' } := rfl

/-- A property is documented by the entry of its own comment, once its type is linked. -/
theorem propertyFragment_eq (node : Node) :
    propertyFragment (δ := δ) evaluate site node =
      match site.propertyComment? node with
      | none => pure {}
      | some (key, comment) =>
        let entry := (Comment.read comment (some key)).entry key
        annotate (δ := δ) evaluate site.scope (.ofEntry entry (.text entry.type)) := rfl

/-- A key of a body comment documents its target by its entry, once its type is linked. -/
theorem bindEntries_cons [LawfulMonad m] (owner : ValueId) (isFunction : Bool)
    (doc : Comment.CommentDoc) (key : Text) (entry : Comment.EntryDoc)
    (rest : List (Text × Comment.EntryDoc)) :
    bindEntries (δ := δ) evaluate site owner isFunction doc ((key, entry) :: rest) = (do
      let id ← target δ owner isFunction doc key
      let record ← annotate (δ := δ) evaluate site.scope (.ofEntry entry (.text entry.type))
      mergeInto δ id record
      bindEntries (δ := δ) evaluate site owner isFunction doc rest) := by
  simp only [bindEntries, annotate, Fragment.ofEntry, bind_assoc, pure_bind]

end

variable (evaluate : Evaluator δ) {store : Store δ} {scope : ScopeId} {scopes : List Scope}

/-- What a record and the store come to when its type text is linked. -/
theorem run_annotate (store : Store δ) (scope : ScopeId) {type : Text} (spelled : type ≠ [])
    (record : Fragment) :
    (annotate (δ := δ) evaluate scope { record with type := .text type }).run store =
      match resolution store scope type with
      | .unresolved => ({ record with type := .text type }, store.report (.unresolvedType type))
      | .moduleId id => ({ record with type := .text id }, store)
      | .value id => ({ record with type := .value id }, ((evaluate id).run store).2) := by
  have linked := run_resolve evaluate store scope type
  rw [if_neg spelled] at linked
  have split : (annotate (δ := δ) evaluate scope { record with type := .text type }).run store =
      (fun note => ({ record with type := note.1 }, note.2))
        ((resolve (δ := δ) evaluate scope type).run store) := rfl
  rw [split, linked]
  cases resolution store scope type <;> rfl

/-- A path leads to what is linked, unless it has no origin or is undefined. -/
theorem resolution_eq_ofValue {type : Text} {id : ValueId} {value : Value δ}
    (found : store.reach? scope (TypeExpr.path type) = some id)
    (present : store.value? id = some value) :
    resolution store scope type = .ofValue id value := by
  simp only [resolution, found, present]

theorem resolution_eq_unresolved {type : Text}
    (useless : ∀ value, (store.reach? scope (TypeExpr.path type)).bind store.value? = some value →
      value.type = ModelType.undefined ∨ value.origin.isKnown = false) :
    resolution store scope type = .unresolved := by
  unfold resolution
  split
  · rfl
  · rename_i id found
    split
    · rfl
    · rename_i value present
      rw [found, Option.bind_some] at useless
      rw [Resolution.ofValue, if_pos]
      rcases useless value present with undefined | unknown
      · simp [undefined]
      · simp [unknown]

theorem Resolution.ofValue_of_useful {id : ValueId} {value : Value δ}
    (defined : value.type ≠ ModelType.undefined) (known : value.origin.isKnown = true) :
    Resolution.ofValue id value =
      match value.relatedModule with
      | some name => .moduleId name
      | none => .value id := by
  unfold Resolution.ofValue
  exact if_neg (by simp [defined, known])

/-- A type text that joins names by dots, with marks behind them, looks up exactly these names:
the first in the nearest scope that binds it, the others along properties, so that a longer path
goes on from where a shorter one leads. The record keeps everything but its type. It keeps that,
too, when the path leads nowhere, to an undefined value or to one without an origin; otherwise
it gets the identifier of the value's module, if there is one, or else the value itself. The
marks never matter to what the text comes to. -/
theorem annotate_dotted (chain : store.ScopeChain scope scopes) {head : Text} {rest : List Text}
    (dotted : TypeExpr.IsDotted head rest) {marks : Text}
    (unnamed : ∀ c ∈ marks, TypeExpr.isPathChar c = false) (record : Fragment) :
    let type := joinWith '.' (head :: rest) ++ marks
    let found := store.follow? (scopes.findSome? fun scope => scope.bindings.get? head) rest
    let linked := (annotate (δ := δ) evaluate scope { record with type := .text type }).run store
    TypeExpr.path type = head :: rest ∧
    store.reach? scope (head :: rest) = found ∧
    (∀ name names more, store.reach? scope (name :: names ++ more) =
      store.follow? (store.reach? scope (name :: names)) more) ∧
    ((∀ value, found.bind store.value? = some value →
        value.type = ModelType.undefined ∨ value.origin.isKnown = false) →
      linked = ({ record with type := .text type }, store.report (.unresolvedType type))) ∧
    (∀ id value, found = some id → store.value? id = some value →
      value.type ≠ ModelType.undefined → value.origin.isKnown = true →
      (∀ name, value.relatedModule = some name →
        linked = ({ record with type := .text name }, store)) ∧
      (value.relatedModule = none →
        linked = ({ record with type := .value id }, ((evaluate id).run store).2))) ∧
    resolution store scope type = resolution store scope (joinWith '.' (head :: rest)) := by
  intro type found linked
  have path : TypeExpr.path type = head :: rest := TypeExpr.path_eq dotted unnamed
  have bare : TypeExpr.path (joinWith '.' (head :: rest)) = head :: rest := by
    have spelled := TypeExpr.path_eq dotted fun _ none => absurd none List.not_mem_nil
    rwa [List.append_nil] at spelled
  have reached : store.reach? scope (head :: rest) = found :=
    Store.reach?_eq_follow? chain dotted.named rest
  have spelled : type ≠ [] := List.append_ne_nil_of_left_ne_nil dotted.joinWith_ne_nil marks
  have outcome := run_annotate evaluate store scope spelled record
  refine ⟨path, reached, Store.reach?_append scope, ?_, ?_, ?_⟩
  · intro useless
    have unresolved : resolution store scope type = .unresolved := by
      apply resolution_eq_unresolved
      rwa [path, reached]
    rw [unresolved] at outcome
    exact outcome
  · intro id value leads present defined known
    have resolved : resolution store scope type = .ofValue id value := by
      apply resolution_eq_ofValue _ present
      rw [path, reached, leads]
    rw [resolved, Resolution.ofValue_of_useful defined known] at outcome
    refine ⟨?_, ?_⟩
    · intro name related
      rw [related] at outcome
      exact outcome
    · intro unrelated
      rw [unrelated] at outcome
      exact outcome
  · unfold resolution
    rw [path, bare]

/-- An object that is its own `self` and has a function `W`. An inner scope hides the outer
one's `x`, but not its `ui`. -/
def knottedStore : Store Nat where
  values :=
    [{ type := ModelType.object, properties := .ofList [("self".toList, 0), ("W".toList, 1)] },
     { type := ModelType.function, origin := .label "w.js".toList, pending := some 7 }]
  scopes :=
    [{ bindings := .ofList [("x".toList, 0), ("ui".toList, 0)] },
     { parent := some 0, bindings := .ofList [("x".toList, 1)] }]

/-- The path goes round before it leads to the function, which is evaluated and linked. -/
theorem annotate_dotted_knotted :
    knottedStore.ScopeChain 1 [knottedStore.scopes[1], knottedStore.scopes[0]] ∧
      TypeExpr.IsDotted "ui".toList ["self".toList, "W".toList] ∧
      (∀ c ∈ "[]?".toList, TypeExpr.isPathChar c = false) ∧
      (annotate (δ := Nat) completing 1
        { type := .text "ui.self.W[]?".toList, tags := ["t".toList] }).run knottedStore =
        (({ type := .value 1, tags := ["t".toList] } : Fragment),
          ((completing 1).run knottedStore).2) := by
  have chain : knottedStore.ScopeChain 1 [knottedStore.scopes[1], knottedStore.scopes[0]] :=
    .inside rfl rfl (by decide) (.outermost rfl rfl)
  have dotted : TypeExpr.IsDotted "ui".toList ["self".toList, "W".toList] :=
    ⟨by decide, by decide, "W".toList, 'W', rfl, rfl, .inl (by decide)⟩
  have unnamed : ∀ c ∈ "[]?".toList, TypeExpr.isPathChar c = false := by
    intro c mem
    have mark : c = '[' ∨ c = ']' ∨ c = '?' := by simpa using mem
    rcases mark with rfl | rfl | rfl <;> rfl
  have linked := annotate_dotted completing chain dotted unnamed { tags := ["t".toList] }
  exact ⟨chain, dotted, unnamed,
    (linked.2.2.2.2.1 1 knottedStore.values[1] (by decide) rfl (by decide) rfl).2 rfl⟩

end Binding

end CommentDocs
