import CommentDocs.Datum

/-!
# Documented values

Reading a program yields a graph of values: functions with parameters and returns,
objects with properties, and plain data. Values refer to each other by identity, so two
names may share one value and a value may contain itself; a `ValueId` is that identity.
A value may still have a computation pending that completes it; `δ` is what such a
computation is.
-/

namespace CommentDocs

abbrev ValueId := Nat

/-- What is noted as the type of a value: text, the value that the text was found to
name, or data that came from elsewhere. -/
inductive TypeNote where
  | text (text : Text)
  | value (id : ValueId)
  | datum (datum : Datum)
  deriving DecidableEq, Repr

namespace TypeNote

instance : Inhabited TypeNote := ⟨.text []⟩

def isPresent : TypeNote → Bool
  | .text name => name ≠ []
  | .value _ => true
  | .datum other => other.isPresent

end TypeNote

structure ValueDoc where
  type : TypeNote := .text []
  summary : Text := []
  description : Text := []
  tags : List Text := []
  examples : List Text := []
  isOptional : Bool := false
  deriving DecidableEq, Repr

/-- Where a value was written: nowhere in particular, in a place known by a label only, or
in the source of a module. -/
inductive Origin where
  | unknown
  | label (text : Text)
  | source (module : Text)
  deriving DecidableEq, Repr

namespace Origin

/-- Whether there is a place to point at. -/
def isKnown : Origin → Bool
  | .unknown => false
  | .label place => place ≠ []
  | .source _ => true

def text? : Origin → Option Text
  | .unknown => none
  | .label place => some place
  | .source module => some module

end Origin

/-! The types that a value may have. -/

namespace ModelType

def any : Text := "any".toList

def function : Text := "function".toList

def object : Text := "object".toList

def undefined : Text := "undefined".toList

def all : List Text :=
  [any, "array".toList, "boolean".toList, function, "instance".toList, "null".toList,
   "number".toList, object, "string".toList, undefined]

end ModelType

structure Value (δ : Type) where
  type : Text := ModelType.any
  name : Option Text := none
  origin : Origin := .unknown
  relatedModule : Option Text := none
  doc : ValueDoc := {}
  parameters : Table ValueId := {}
  properties : Table ValueId := {}
  returns : List ValueId := []
  pending : Option δ := none
  deriving DecidableEq, Repr

namespace Value

variable {δ : Type}

/-- Whether nothing is left to be computed. -/
def isEvaluated (value : Value δ) : Bool :=
  value.pending.isNone

/-- The value named by itself, or by its type when it has no name. -/
def label (value : Value δ) : Text :=
  match value.name with
  | some (c :: rest) => c :: rest
  | _ => value.type

end Value

end CommentDocs
