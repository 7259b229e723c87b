import CommentDocs.Datum
import CommentDocs.Log.Level

/-!
# The event journal

Events go through the handlers of a journal: one shows them on the console, one writes a
line of named fields to a file. Configuring the journal puts new handlers in the place of
the old ones, so that what is written twice or under an old level would come from a handler
left behind; a level that does not exist is refused before anything is touched. The time of
writing is stamped on a line by the outer layer, so a field of that name never comes from
an event.
-/

namespace CommentDocs.Log

structure Entry where
  logger : Text
  number : Int
  event : Text
  fields : Table Datum := {}
  deriving DecidableEq, Repr

def levelName (number : Int) : Text :=
  match Level.all.find? fun level => (level.number : Int) = number with
  | some level => Text.lowerAscii level.name
  | none => if number = 0 then "notset".toList else "level ".toList ++ (toString number).toList

/-- The name under which a logger is written; the one without a name is the root. -/
def sourceName (logger : Text) : Text :=
  if logger = [] then "root".toList else logger

/-- The field that holds the time of writing. -/
def timeField : Text := "timestamp".toList

/-- The fields by which an event asks for details of a failure or of its origin, and those
that the log fills in. They are not written as they come. -/
def withheldFields : List Text :=
  ["exc_info".toList, "stack_info".toList, "_record".toList, "_from_structlog".toList, timeField]

def Entry.written (entry : Entry) : Table Datum :=
  withheldFields.foldl Table.erase entry.fields

/-- The line of an event: its fields, then the event, its level and its logger, which win
over fields of the same names. -/
def Entry.line (entry : Entry) : Table Datum :=
  ((entry.written.put "event".toList (.text entry.event)).put
    "level".toList (.text (levelName entry.number))).put
      "logger".toList (.text (sourceName entry.logger))

/-- Why an event is not taken. -/
inductive Fault where
  /-- A field has the name of a part of the call. -/
  | takenName (call name : Text)
  /-- The field that holds the record of the event has another datum. -/
  | notRecord (datum : Datum)
  /-- A field that is shown as a text is none. -/
  | notText (datum : Datum)
  deriving DecidableEq, Repr

def typeWord : Datum → Text
  | .null => "NoneType".toList
  | .boolean _ => "bool".toList
  | .integer _ => "int".toList
  | .real _ => "float".toList
  | .moment _ => "datetime".toList
  | .text _ => "str".toList
  | .array _ => "list".toList
  | .table _ => "dict".toList

def Fault.message : Fault → Text
  | .takenName call name =>
    call ++ "() got multiple values for argument '".toList ++ name ++ ['\'']
  | .notRecord datum =>
    '\'' :: typeWord datum ++ "' object has no attribute 'name'".toList
  | .notText datum =>
    "can only concatenate str (not \"".toList ++ typeWord datum ++ "\") to str".toList

/-- The fields that the console shows as texts below an event. -/
def shownFields : List Text :=
  ["stack".toList, "exception".toList]

/-- The first of the shown fields that is neither missing nor a text. -/
def notText? (fields : Table Datum) : Option Fault :=
  shownFields.findSome? fun name =>
    match fields.get? name with
    | none | some .null | some (.text _) => none
    | some datum => some (.notText datum)

/-- Where a handler sends events. -/
inductive Outlet where
  | console
  | file
  deriving DecidableEq, Repr

/-- A handler sends the events of its level or above to its outlet. -/
structure Handler where
  outlet : Outlet
  least : Int
  deriving DecidableEq, Repr

/-- The handlers in the order in which they take an event, the least level number that
reaches them, and the lines of the file. Before it is configured a journal has no handler,
and its level is that for warnings. -/
structure Journal where
  least : Int := Level.warning.number
  handlers : List Handler := []
  lines : List (Table Datum) := []
  deriving DecidableEq, Repr

/-- The journal that a program leaves behind, unless it fails. -/
def outcome {ε : Type} (program : EStateM ε Journal Unit) (journal : Journal) :
    Except ε Journal :=
  match program.run journal with
  | .ok _ journal => .ok journal
  | .error fault _ => .error fault

namespace Journal

def remove (journal : Journal) (handler : Handler) : Journal :=
  { journal with handlers := journal.handlers.erase handler }

def add (journal : Journal) (handler : Handler) : Journal :=
  { journal with handlers := journal.handlers ++ [handler] }

def setLeast (journal : Journal) (least : Int) : Journal :=
  { journal with least }

def write (journal : Journal) (entry : Entry) : Journal :=
  { journal with lines := journal.lines ++ [entry.line] }

def outlets (toFile : Bool) : List Outlet :=
  if toFile then [.console, .file] else [.console]

/-- Set the level, and put handlers of that level in the place of all others; the complaint
tells of an unknown level. -/
def configure (level : Text) (toFile : Bool) : EStateM Text Journal Unit := do
  let level ← ofExcept (Level.resolve level)
  (← get).handlers.forM fun stale => modify (remove · stale)
  (outlets toFile).forM fun outlet => modify (add · ⟨outlet, level.number⟩)
  modify (setLeast · level.number)

def configureAll (journal : Journal) (levels : List Text) : Except Text Journal :=
  outcome (levels.forM (configure · true)) journal

/-- Let a handler take an event. The console fails on a field that it cannot show; the
handlers behind it are then not reached. -/
def handle (entry : Entry) (handler : Handler) : EStateM Fault Journal Unit := do
  if handler.least ≤ entry.number then
    match handler.outlet with
    | .console => (notText? entry.fields).forM throw
    | .file => modify (write · entry)

/-- Let every handler take an event that reaches the level. -/
def dispatch (entry : Entry) : EStateM Fault Journal Unit := do
  let journal ← get
  if journal.least ≤ entry.number then
    journal.handlers.forM (handle entry)

end Journal

end CommentDocs.Log
