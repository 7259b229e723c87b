import CommentDocs.Graph.Store
import CommentDocs.Log.Journal

/-!
# Messages about documentation

The events of a run are logged under fixed names. Details of binding are for debugging;
that a module has been documented is information.
-/

namespace CommentDocs.Log

structure Message where
  level : Level
  event : Text
  fields : Table Datum
  deriving DecidableEq, Repr

namespace Message

/-- The message with more fields, which win over its own. -/
def withFields (message : Message) (fields : Table Datum) : Message :=
  { message with fields := message.fields.putAll fields }

def entry (message : Message) (logger : Text) : Entry :=
  { logger, number := message.level.number, event := message.event, fields := message.fields }

/-- The message of an event; that a computation was started is not logged. -/
def ofEvent? : Event → Option Message
  | .unresolvedType type =>
    some ⟨.debug, "type-annotation-unresolved".toList, .ofList [("annotation".toList, .text type)]⟩
  | .fabricatedProperty name onPrototype =>
    some ⟨.debug, "property-fabricated".toList,
      .ofList [("name".toList, .text name), ("on_prototype".toList, .boolean onPrototype)]⟩
  | .createdReturn type =>
    some ⟨.debug, "return-slot-created".toList,
      .ofList [("annotation".toList, (type.map Datum.text).getD .null)]⟩
  | .startedEvaluation _ => none

/-- The message that closes the documentation of a module. -/
def documented (values : Nat) : Message :=
  ⟨.info, "module-documented".toList, .ofList [("values".toList, .integer values)]⟩

end Message

end CommentDocs.Log
