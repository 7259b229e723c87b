import CommentDocs.Binding.Fabrication
import CommentDocs.Binding.Resolution
import CommentDocs.Comment.Reading
import CommentDocs.Syntax.Node

/-!
# Binding comments to values

A node is documented by a comment near it. Where that comment stands depends on the node:

* a parameter has a block comment with its type right before it;
* a return statement may end its first line with a comment that is its type;
* a property of an object has a comment block of its own right before it;
* a function or an object has a comment block right after its opening brace, which
  documents the value and, by name, its parameters and properties.

Documentation is best effort: where no such comment stands, nothing changes. The module is
written for any state that holds a store, because completing a value on the way may run
computations of any kind.
-/

namespace CommentDocs.Binding

open Text Syntax

variable {δ : Type}

/-- The source of the comments, and the scope in which their types are resolved. -/
structure Site where
  stream : TokenStream
  scope : ScopeId
  deriving DecidableEq, Repr

namespace Site

def preceding? (site : Site) (node : Node) : Option Token :=
  (site.stream.before node.span).head?

/-- The range in which the body comment of a node is looked for. -/
def bodySpan? (node : Node) : Option Span :=
  if node.kind = .object then some node.span else node.bodySpan

/-- The comment block right after the opening brace of a node. -/
def bodyComment? (site : Site) (node : Node) : Option Text :=
  match bodySpan? node with
  | none => none
  | some span =>
    match (site.stream.inside span)[1]? with
    | some token => if token.kind = .lineComments then some token.text else none
    | none => none

def inlineComment? (site : Site) (node : Node) : Option Text :=
  match site.preceding? node with
  | some token => if token.kind = .blockComment then some token.text else none
  | none => none

end Site

/-- Whether a comment starts, after blanks, with a key and a colon. -/
def opensWithKey (key : Text) (comment : Text) : Bool :=
  (key ++ [':']).isPrefixOf comment ||
    match comment with
    | c :: rest => isBlank c && opensWithKey key rest
    | [] => false

/-- The comment block of a property, with the property's key. -/
def Site.propertyComment? (site : Site) (node : Node) : Option (Text × Text) :=
  match node.keyName, site.preceding? node with
  | some key, some token =>
    if key ≠ [] && token.kind = .lineComments && opensWithKey key token.text then
      some (key, token.text)
    else none
  | _, _ => none

/-- What follows the last two slashes of a line. -/
def afterLastSlashes? : Text → Option Text
  | [] => none
  | c :: rest =>
    match afterLastSlashes? rest with
    | some tail => some tail
    | none => "//".toList.isPrefixOf? (c :: rest)

/-- The comment at the end of the first line of a text, if the text goes on below it. -/
def firstLineComment? (text : Text) : Option Text :=
  match splitOn '\n' text with
  | line :: _ :: _ => afterLastSlashes? line
  | _ => none

/-- The documentation that a return statement's own comment holds. -/
def returnFragment (site : Site) (node : Node) : Fragment :=
  match firstLineComment? (site.stream.textOf node.span) with
  | some comment => { type := .text (undecorated comment) }
  | none => {}

variable {m : Type → Type} [Monad m] [MonadStateOf (Store δ) m]

section

variable (δ)

/-- The value that a key documents, made if it is missing. -/
def target (owner : ValueId) (isFunction : Bool) (doc : Comment.CommentDoc) (key : Text) :
    m ValueId := do
  let store ← getThe (Store δ)
  match store.documented? owner isFunction key with
  | some id => return id
  | none =>
    let (id, store) := store.fabricate owner isFunction key (fabricatedType doc)
    set store
    return id

def mergeInto (id : ValueId) (fragment : Fragment) : m Unit :=
  modifyThe (Store δ) (·.mergeInto id fragment)

end

variable (evaluate : ValueId → m Unit) (site : Site)

def parameterFragment (node : Node) : m Fragment := do
  match site.inlineComment? node with
  | none => return {}
  | some comment =>
    let type ← resolve (δ := δ) evaluate site.scope
      (TypeExpr.withoutOptionalMark (undecorated comment))
    return { type, isOptional := comment.contains '?' }

/-- The documentation of a property by its own comment block. -/
def propertyFragment (node : Node) : m Fragment := do
  match site.propertyComment? node with
  | none => return {}
  | some (key, comment) =>
    let doc := (Comment.read comment (some key)).entry key
    let type ← resolve (δ := δ) evaluate site.scope doc.type
    return .ofEntry doc type

/-- Document the parameters and properties that a body comment names. -/
def bindEntries (owner : ValueId) (isFunction : Bool) (doc : Comment.CommentDoc) :
    List (Text × Comment.EntryDoc) → m Unit
  | [] => return
  | (key, entry) :: rest => do
    let id ← target δ owner isFunction doc key
    let type ← resolve (δ := δ) evaluate site.scope entry.type
    mergeInto δ id (.ofEntry entry type)
    bindEntries owner isFunction doc rest

/-- Document the first return value of a function. -/
def bindReturn (owner : ValueId) (doc : Comment.ReturnDoc) : m Unit := do
  if doc.isDocumented then
    let (first, store) := (← getThe (Store δ)).ensureReturn owner doc.type
    set store
    match first with
    | some id => mergeInto δ id (.ofReturn doc)
    | none => return

/-- Document a function or an object by its body comment; what remains documents the value
itself. -/
def bodyFragment (node : Node) (owner : ValueId) : m Fragment := do
  match site.bodyComment? node with
  | none => return {}
  | some comment =>
    let doc := Comment.read comment none
    bindEntries (δ := δ) evaluate site owner (node.kind = .function) doc doc.entries.entries
    bindReturn (δ := δ) owner doc.returns
    return .ofComment doc

/-- What is found for a node, given the kind of the nearest function or object literal
around it. -/
def fragment (node : Node) (owner : ValueId) (context : Option NodeKind) : m Fragment :=
  match node.kind, context with
  | .identifier, some .function => parameterFragment (δ := δ) evaluate site node
  | .returning, _ => return returnFragment site node
  | .function, _ => bodyFragment (δ := δ) evaluate site node owner
  | .object, _ => bodyFragment (δ := δ) evaluate site node owner
  | .property, some .object => propertyFragment (δ := δ) evaluate site node
  | _, _ => return {}

def document (node : Node) (owner : ValueId) (context : Option NodeKind) : m Unit := do
  mergeInto δ owner (← fragment (δ := δ) evaluate site node owner context)

end CommentDocs.Binding
