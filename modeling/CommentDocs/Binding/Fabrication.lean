import CommentDocs.Comment.Doc
import CommentDocs.Doc.Merge
import CommentDocs.Graph.Store

/-!
# Values made for documentation

A comment may document a property or a return value that no code mentions. Such a value
is added to the graph, without an origin, so that the documentation has a place; a value
that exists is never replaced. The documented properties of a function belong to its
prototype object.
-/

namespace CommentDocs

namespace Binding

/-- The type of values made for documentation whose comment names no type: the lower-case
letters of the comment's own type, or any type. -/
def fabricatedType (doc : Comment.CommentDoc) : Text :=
  match doc.type.filter Char.isLower with
  | [] => ModelType.any
  | type => type

def createdReturnType (type : Text) : Text :=
  if ModelType.all.contains type then type else ModelType.any

end Binding

namespace Store

variable {δ : Type}

/-- The value that a key of a body comment documents: a parameter of the function, or a
property of the value. -/
def documented? (store : Store δ) (owner : ValueId) (isFunction : Bool) (key : Text) :
    Option ValueId :=
  match store.value? owner with
  | none => none
  | some value =>
    (if isFunction then value.parameters.get? key else none).or (value.properties.get? key)

/-- The object on which a function's documented properties are kept; it is made if the
function has none. -/
def ensurePrototype (store : Store δ) (owner : ValueId) : ValueId × Store δ :=
  match store.property? owner "prototype".toList with
  | some prototype => (prototype, store)
  | none =>
    (store.nextId,
      (store.add { type := ModelType.object }).setProperty owner "prototype".toList store.nextId)

/-- Add a property for a key that no code mentions: on the prototype of a function, on an
object itself. -/
def fabricate (store : Store δ) (owner : ValueId) (isFunction : Bool) (key type : Text) :
    ValueId × Store δ :=
  let id := store.nextId
  let store := store.add { type }
  let (holder, store) := if isFunction then store.ensurePrototype owner else (owner, store)
  (id, (store.setProperty holder key id).report (.fabricatedProperty key isFunction))

/-- The first return value of a function, made if documentation needs one. -/
def ensureReturn (store : Store δ) (owner : ValueId) (type : Text) : Option ValueId × Store δ :=
  match store.value? owner with
  | none => (none, store)
  | some value =>
    match value.returns with
    | first :: _ => (some first, store)
    | [] =>
      let id := store.nextId
      (some id,
        ((store.add { type := Binding.createdReturnType type }).appendReturn owner id).report
          (.createdReturn (if type = [] then none else some type)))

def mergeInto (store : Store δ) (id : ValueId) (fragment : Fragment) : Store δ :=
  store.update id fun value => { value with doc := value.doc.merge fragment }

end Store

end CommentDocs
