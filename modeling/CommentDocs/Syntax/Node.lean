import CommentDocs.Syntax.Bytes
import CommentDocs.Syntax.Token
import CommentDocs.Syntax.Tree

/-!
# Documented nodes

Only five kinds of nodes take part in documentation. A node is seen with its range in
characters, the range of its body if it is a function with braces, and its key if it is a
member of an object.
-/

namespace CommentDocs.Syntax

inductive NodeKind where
  | identifier
  | function
  | returning
  | object
  | property
  | other
  deriving DecidableEq, Repr

namespace NodeKind

def name : NodeKind → Text
  | .identifier => "identifier".toList
  | .function => "function".toList
  | .returning => "return".toList
  | .object => "object".toList
  | .property => "property".toList
  | .other => "other".toList

def all : List NodeKind :=
  [.identifier, .function, .returning, .object, .property, .other]

def ofName? (word : Text) : Option NodeKind :=
  all.find? fun kind => kind.name = word

end NodeKind

/-- What documentation needs to know of a node. -/
structure Node where
  kind : NodeKind
  span : Span := ⟨0, 0⟩
  bodySpan : Option Span := none
  keyName : Option Text := none
  deriving DecidableEq, Repr

def methodType : Text := "method_definition".toList

def declarationTypes : List Text :=
  ["function_declaration".toList, "generator_function_declaration".toList]

def functionTypes : List Text :=
  ["arrow_function".toList, "function".toList, "function_declaration".toList,
   "function_expression".toList, "generator_function".toList,
   "generator_function_declaration".toList, methodType]

def identifierType : Text := "identifier".toList

def objectType : Text := "object".toList

def returnType : Text := "return_statement".toList

def pairType : Text := "pair".toList

def stringType : Text := "string".toList

def blockType : Text := "statement_block".toList

def kindOfType (type : Text) : NodeKind :=
  if functionTypes.contains type then .function
  else if type = identifierType then .identifier
  else if type = returnType then .returning
  else if type = objectType then .object
  else if type = pairType then .property
  else .other

namespace Tree

def span (source : Text) (tree : Tree) : Span :=
  ⟨charIndex source tree.start, charIndex source tree.stop⟩

def text (source : Text) (tree : Tree) : Text :=
  betweenBytes source tree.start tree.stop

def block? (tree : Tree) : Option Tree :=
  (tree.child? "body".toList).filter fun body => body.type = blockType

def key? (tree : Tree) : Option Tree :=
  if tree.type = pairType then tree.child? "key".toList
  else if tree.type = methodType then tree.child? "name".toList
  else none

/-- The key of a member; a string literal stands for what is between its quotes. -/
def keyName? (source : Text) (tree : Tree) : Option Text :=
  tree.key?.map fun key =>
    let spelling := key.text source
    if key.type = stringType then spelling.tail.dropLast else spelling

def toNode (source : Text) (tree : Tree) : Node where
  kind := kindOfType tree.type
  span := tree.span source
  bodySpan := tree.block?.map (span source)
  keyName := tree.keyName? source

end Tree

end CommentDocs.Syntax
