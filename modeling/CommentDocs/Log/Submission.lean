import CommentDocs.Log.Journal

/-!
# Handing events to the journal

An event is handed in bare, with any level number, or by one of the five methods of a
logger, with a context that the logger carries and fields of its own, which win. Some names
belong to the parts of such a call, so no field may have them. A call may ask for details of
where it is made; they take the place of what the call has put under their names.
-/

namespace CommentDocs.Log

/-- Where a call is made: its stack as a text, and the failure that is being handled there. -/
structure Origin where
  stack : Text := []
  failure : Option Text := none
  deriving DecidableEq, Repr

inductive Submission where
  | bare (logger : Text) (number : Int) (event : Text)
  | called (logger : Text) (method : Level) (event : Text) (context fields : Table Datum)
      (origin : Origin := {})
  deriving DecidableEq, Repr

/-- The calls that an event goes through, each with the names that are taken there. -/
def calls (method : Level) : List (Text × List Text) :=
  [("BoundLogger.".toList ++ Text.lowerAscii method.name, ["event".toList, "self".toList]),
   ("BoundLogger._proxy_to_logger".toList, ["method_name".toList])]

/-- The calls that make a logger, each with the names that are taken there. -/
def makingCalls : List (Text × List Text) :=
  [("get_logger".toList, ["name".toList]), ("BoundLoggerLazyProxy.bind".toList, ["self".toList])]

/-- The fault of the first call in which a field has a name that is taken. -/
def takenName? (calls : List (Text × List Text)) (fields : Table Datum) : Option Fault :=
  calls.findSome? fun (call, names) =>
    (names.find? fields.contains).map fun name => .takenName call name

/-- The record that an event brings itself, which is none. -/
def notRecord? (fields : Table Datum) : Option Fault :=
  match fields.get? "_record".toList with
  | none | some .null => none
  | some datum => some (.notRecord datum)

def asksFor (flag : Text) (fields : Table Datum) : Bool :=
  (fields.get? flag).any Datum.isPresent

/-- The fields with a detail under its name, if there is one and a flag asks for it. -/
def withDetail (flag name : Text) (detail : Option Text) (fields : Table Datum) : Table Datum :=
  match detail with
  | some text => if asksFor flag fields then fields.put name (.text text) else fields
  | none => fields

def Origin.withDetails (origin : Origin) (fields : Table Datum) : Table Datum :=
  withDetail "exc_info".toList "exception".toList origin.failure
    (withDetail "stack_info".toList "stack".toList (some origin.stack) fields)

section

variable (flag name : Text) (detail : Option Text) (fields : Table Datum)

theorem get?_withDetail :
    (withDetail flag name detail fields).get? name =
      if asksFor flag fields then detail.map .text <|> fields.get? name else fields.get? name := by
  cases detail with
  | none => exact (ite_self _).symm
  | some text => by_cases asks : asksFor flag fields = true <;> simp [withDetail, asks]

theorem get?_withDetail_of_ne {other : Text} (ne : name ≠ other) :
    (withDetail flag name detail fields).get? other = fields.get? other := by
  unfold withDetail
  split
  · split
    · rw [Table.get?_put, if_neg ne]
    · rfl
  · rfl

end

namespace Origin

variable (origin : Origin) (fields : Table Datum)

theorem get?_stack :
    (origin.withDetails fields).get? "stack".toList =
      if asksFor "stack_info".toList fields then some (.text origin.stack)
      else fields.get? "stack".toList := by
  rw [withDetails, get?_withDetail_of_ne _ _ _ _ (by decide), get?_withDetail]
  rfl

theorem get?_exception :
    (origin.withDetails fields).get? "exception".toList =
      if asksFor "exc_info".toList fields then
        origin.failure.map .text <|> fields.get? "exception".toList
      else fields.get? "exception".toList := by
  have flag : asksFor "exc_info".toList (withDetail "stack_info".toList "stack".toList
      (some origin.stack) fields) = asksFor "exc_info".toList fields := by
    rw [asksFor, get?_withDetail_of_ne _ _ _ _ (by decide), asksFor]
  rw [withDetails, get?_withDetail, flag, get?_withDetail_of_ne _ _ _ _ (by decide)]

end Origin

def Submission.entry : Submission → Except Fault Entry
  | .bare logger number event => .ok { logger, number, event }
  | .called logger method event context fields origin =>
    let all := context.putAll fields
    let fault := (takenName? makingCalls context).or
      ((takenName? (calls method) fields).or (notRecord? all))
    match fault with
    | some fault => .error fault
    | none => .ok { logger, number := method.number, event, fields := origin.withDetails all }

/-- A field that is no text gives way to the stack. -/
example :
    let fields := .ofList [("stack".toList, .integer 3), ("stack_info".toList, .boolean true)]
    let call := Submission.called "a".toList .info "e".toList {} fields { stack := "main".toList }
    call.entry.map Entry.line = .ok (.ofList [("stack".toList, .text "main".toList),
      ("event".toList, .text "e".toList), ("level".toList, .text "info".toList),
      ("logger".toList, .text "a".toList)]) := by
  rfl

namespace Journal

def submit (submission : Submission) : EStateM Fault Journal Unit := do
  dispatch (← ofExcept submission.entry)

/-- Hand in several events, up to the first that is not taken. -/
def submitAll (journal : Journal) (submissions : List Submission) : Except Fault Journal :=
  outcome (submissions.forM submit) journal

end Journal

end CommentDocs.Log
