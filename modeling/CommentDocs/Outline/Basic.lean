import CommentDocs.Module.Docs
import CommentDocs.Outline.Label

/-!
# Outlines

An outline is a tree of labels. The outline of a value unfolds its properties: each is
listed with its tags, parameters and first return, then its own properties. Values may
contain themselves, so a value that is already on the way down from the top is listed but
not unfolded again, and below a fixed depth nothing is. A value shared by two branches is
unfolded in both.
-/

namespace CommentDocs

open Markup

inductive Outline where
  | node (label : Text) (children : List Outline)

namespace Outline

def leaf (label : Text) : Outline :=
  .node label []

/-- A word that says what kind of label follows. -/
def marked (style word : String) (label : Text) : Text :=
  styled style.toList word.toList ++ ' ' :: label

/-- Properties are unfolded to this depth. -/
def maxDepth : Nat := 4

end Outline

namespace Store

open Outline

variable {δ : Type}

def labelOf (store : Store δ) (name : Text) (id : ValueId) : Text :=
  ((store.value? id).map (store.label name)).getD []

/-- What is listed of a value besides its properties. -/
def details (store : Store δ) (value : Value δ) : List Outline :=
  value.doc.tags.map (fun tag => leaf (marked "magenta" "tag" (escape tag))) ++
  value.parameters.entries.map (fun (name, id) =>
    leaf (marked "green" "param" (store.labelOf name id))) ++
  (value.returns.take 1).map (fun id => leaf (marked "yellow" "returns" (store.labelOf [] id)))

/-- What is listed below a value. `path` holds the values on the way down to it, and `depth`
is how much further properties are unfolded. -/
def unfold (store : Store δ) (depth : Nat) (path : List ValueId) (id : ValueId) :
    List Outline :=
  match depth with
  | 0 => []
  | depth + 1 =>
    if path.contains id then []
    else
      match store.value? id with
      | none => []
      | some value =>
        store.details value ++ value.properties.entries.map fun (name, property) =>
          .node (store.labelOf name property) (store.unfold depth (id :: path) property)

def unfoldTop (store : Store δ) (id : ValueId) : List Outline :=
  store.unfold maxDepth [] id

end Store

namespace ModuleDocs

open Outline

def exportsLabel (docs : ModuleDocs) (id : ValueId) : Text :=
  styled "bold".toList "exports".toList ++ ": ".toList ++
    ((docs.store.value? id).map docs.store.styledType).getD []

/-- The outline of a module: its published values in order, then its exports. -/
def outline (docs : ModuleDocs) : Outline :=
  .node (styled "bold blue".toList docs.moduleId)
    (docs.published.entries.map (fun (name, id) =>
        .node (docs.store.labelOf name id) (docs.store.unfoldTop id)) ++
      docs.exports.toList.map (fun id =>
        .node (docs.exportsLabel id) (docs.store.unfoldTop id)))

end ModuleDocs

end CommentDocs
