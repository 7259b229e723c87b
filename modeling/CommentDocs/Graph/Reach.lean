import CommentDocs.Graph.Store

/-!
# The values reached from a root

The part of a graph that can be seen from some values is numbered by first sight: the
roots come first, then, value by value, what each one refers to: its linked type, its
parameters, its properties and its returns.
-/

namespace CommentDocs

variable {δ : Type}

def TypeNote.link? : TypeNote → Option ValueId
  | .value id => some id
  | _ => none

/-- The values that a value refers to, in order. -/
def Value.references (value : Value δ) : List ValueId :=
  value.doc.type.link?.toList ++ value.parameters.values ++ value.properties.values ++
    value.returns

namespace Store

def number (numbered : List ValueId) (id : ValueId) : List ValueId :=
  if numbered.contains id then numbered else numbered ++ [id]

/-- Number what the values from `index` on refer to; `fuel` bounds how many there are. -/
def numberFrom (store : Store δ) : (fuel index : Nat) → List ValueId → List ValueId
  | 0, _, numbered => numbered
  | fuel + 1, index, numbered =>
    match numbered[index]? with
    | none => numbered
    | some id =>
      let references := ((store.value? id).map Value.references).getD []
      store.numberFrom fuel (index + 1) (references.foldl number numbered)

/-- The values that can be seen from the roots, by first sight. -/
def reachable (store : Store δ) (roots : List ValueId) : List ValueId :=
  store.numberFrom (store.values.length + 1) 0 (roots.foldl number [])

end Store

end CommentDocs
