import CommentDocs.Graph.Store
import CommentDocs.TypeExpr

/-!
# Linking type texts to values

A type text may name a value in scope. A value without a known origin, such as a built-in,
and a value of undefined type are not worth linking to, so the text stays. The name of a
module stands for the module's identifier, and any other value is linked itself, once the
computation pending on it is done.
-/

namespace CommentDocs.Binding

variable {δ : Type}

/-- What a type text comes to. -/
inductive Resolution where
  | unresolved
  | moduleId (id : Text)
  | value (id : ValueId)
  deriving DecidableEq, Repr

/-- What a value comes to when a type text names it. -/
def Resolution.ofValue (id : ValueId) (value : Value δ) : Resolution :=
  if value.type = ModelType.undefined || !value.origin.isKnown then .unresolved
  else
    match value.relatedModule with
    | some name => .moduleId name
    | none => .value id

def resolution (store : Store δ) (scope : ScopeId) (type : Text) : Resolution :=
  match store.reach? scope (TypeExpr.path type) with
  | none => .unresolved
  | some id =>
    match store.value? id with
    | none => .unresolved
    | some value => .ofValue id value

variable {m : Type → Type} [Monad m] [MonadStateOf (Store δ) m]

/-- Link a type text: `evaluate` completes a value before it is linked. An empty text is no
annotation, and a text that names nothing is reported. -/
def resolve (evaluate : ValueId → m Unit) (scope : ScopeId) (type : Text) : m TypeNote := do
  if type = [] then return .text []
  match resolution (← getThe (Store δ)) scope type with
  | .unresolved =>
    modifyThe (Store δ) (·.report (.unresolvedType type))
    return .text type
  | .moduleId id => return .text id
  | .value id =>
    evaluate id
    return .value id

end CommentDocs.Binding
