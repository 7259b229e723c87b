import CommentDocs.Datum

/-!
# A TOML document under construction

The statements of a document are entered one by one into a tree of tables. A table that
a header has opened, or that dotted keys have opened in an earlier section, is closed: no
header opens it again. An array of tables grows at its end, and only its last table can
be reached. Values, inline tables and inline arrays included, are never entered again.
-/

namespace CommentDocs.Toml

/-- A node of the tree: a finished value, a table, or an array of tables whose last table
is still open. -/
inductive Draft where
  | value (datum : Datum)
  | table (closed : Bool) (entries : List (Text × Draft))
  | tables (earlier : List (List (Text × Draft))) (last : List (Text × Draft))

namespace Draft

abbrev Entries := List (Text × Draft)

mutual

def toDatum : Draft → Datum
  | .value datum => datum
  | .table _ entries => .table (entriesToData entries)
  | .tables earlier last => .array (tablesToData earlier ++ [.table (entriesToData last)])

def entriesToData : List (Text × Draft) → List (Text × Datum)
  | [] => []
  | (key, draft) :: rest => (key, toDatum draft) :: entriesToData rest

def tablesToData : List (List (Text × Draft)) → List Datum
  | [] => []
  | entries :: rest => .table (entriesToData entries) :: tablesToData rest

end

/-- Change the table at a path of keys. Missing tables on the way are made, and in an array
of tables the way goes through the last one. A value on the way refuses. -/
def enter? (path : List Text) (change : Entries → Option Entries) (entries : Entries) :
    Option Entries :=
  match path with
  | [] => change entries
  | key :: rest =>
    match Table.find? key entries with
    | none => (enter? rest change []).map fun inner => Table.putIn key (.table false inner) entries
    | some (.value _) => none
    | some (.table closed old) =>
      (enter? rest change old).map fun inner => Table.putIn key (.table closed inner) entries
    | some (.tables earlier last) =>
      (enter? rest change last).map fun inner => Table.putIn key (.tables earlier inner) entries

def node? (path : List Text) (entries : Entries) : Option Draft :=
  match path with
  | [] => none
  | [key] => Table.find? key entries
  | key :: rest =>
    match Table.find? key entries with
    | some (.table _ inner) => node? rest inner
    | some (.tables _ last) => node? rest last
    | _ => none

/-- Whether the table at a path is closed; arrays of tables are. -/
def isClosed (path : List Text) (entries : Entries) : Bool :=
  match node? path entries with
  | some (.table closed _) => closed
  | some (.tables _ _) => true
  | _ => false

/-- Close the table `key`, making it if it is missing. A value refuses. -/
def closeKey? (key : Text) (entries : Entries) : Option Entries :=
  match Table.find? key entries with
  | none => some (Table.putIn key (.table true []) entries)
  | some (.table _ inner) => some (Table.putIn key (.table true inner) entries)
  | some (.tables earlier last) => some (Table.putIn key (.tables earlier last) entries)
  | some (.value _) => none

def close? (path : List Text) (entries : Entries) : Option Entries :=
  match path.getLast? with
  | some key => enter? path.dropLast (closeKey? key) entries
  | none => some entries

/-- Append a new table to the array of tables `key`, making the array if it is missing. -/
def appendTable? (key : Text) (entries : Entries) : Option Entries :=
  match Table.find? key entries with
  | none => some (Table.putIn key (.tables [] []) entries)
  | some (.tables earlier last) =>
    some (Table.putIn key (.tables (earlier ++ [last]) []) entries)
  | _ => none

/-- Bind a key to a value; a key is bound once. -/
def bind? (key : Text) (datum : Datum) (entries : Entries) : Option Entries :=
  match Table.find? key entries with
  | none => some (Table.putIn key (.value datum) entries)
  | some _ => none

/-- Bind a dotted key relative to the root. -/
def bindPath? (path : List Text) (datum : Datum) (entries : Entries) : Option Entries :=
  match path.getLast? with
  | some key => enter? path.dropLast (bind? key datum) entries
  | none => none

end Draft

end CommentDocs.Toml
