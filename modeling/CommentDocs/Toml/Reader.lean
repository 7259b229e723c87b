import CommentDocs.Toml.Draft
import CommentDocs.Toml.Number

/-!
# Reading TOML

A document is a sequence of lines: blanks, comments, headers `[a.b]` and `[[a.b]]`, and
pairs `a.b = value`. A header starts a section, whose pairs are entered below it. The
reader accepts TOML 1.0, except for decimal integers of too many digits and values that are
nested too deeply, and stops at the first fault.
-/

namespace CommentDocs.Toml

open Text

inductive Fault where
  | malformed
  | longInteger (digits : Nat)
  | tooDeep
  deriving DecidableEq, Repr

/-- Decimal integers have at most this many digits. -/
def maxDigits : Nat := 4300

def Fault.message : Fault → Text
  | .malformed => "Invalid TOML".toList
  | .longInteger digits =>
    "Exceeds the limit (".toList ++ (toString maxDigits).toList ++
      " digits) for integer string conversion: value has ".toList ++
      (toString digits).toList ++
      " digits; use sys.set_int_max_str_digits() to increase the limit".toList
  | .tooDeep => "maximum recursion depth exceeded".toList

/-- How deeply the values of a document may be nested; an array counts as `arrayDepth` and
an inline table as `tableDepth`. -/
def maxDepth : Nat := 985

/-- How much deeper the items of an array are. -/
def arrayDepth : Nat := 2

/-- How much deeper the values of an inline table are. -/
def tableDepth : Nat := 3

/-- An answer that is missing only because of malformed text. -/
def orMalformed {α : Type} : Option α → Except Fault α
  | some answer => .ok answer
  | none => .error .malformed

/-- Drop blanks, line ends and comments; `fuel` bounds the number of comments. -/
def skipFiller? : (fuel : Nat) → Text → Option Text
  | 0, _ => none
  | fuel + 1, text =>
    match text.dropWhile isSpaceOrNewline with
    | '#' :: rest =>
      match skipComment? ('#' :: rest) with
      | some after => skipFiller? fuel after
      | none => none
    | rest => some rest

/-- Drop everything between the items of an array. -/
def skipFillers? (text : Text) : Option Text :=
  skipFiller? (text.length + 1) text

/-- A value that is neither an array nor an inline table. -/
def plain? (text : Text) : Option (Datum × Text) :=
  match text with
  | '"' :: _ | '\'' :: _ => (string? text).map fun (value, rest) => (.text value, rest)
  | 't' :: 'r' :: 'u' :: 'e' :: rest => some (.boolean true, rest)
  | 'f' :: 'a' :: 'l' :: 's' :: 'e' :: rest => some (.boolean false, rest)
  | _ => (moment? text).or ((number? text).or (special? text))

/-- Accept a value that is neither an array nor an inline table, unless it is an integer of
too many digits. -/
def readPlain (text : Text) : Except Fault (Datum × Text) :=
  match plain? text with
  | none => .error .malformed
  | some (.integer value, rest) =>
    let digits := decimalDigits (consumed text rest)
    if maxDigits < digits then .error (.longInteger digits) else .ok (.integer value, rest)
  | some found => .ok found

mutual

/-- The value at the start of a text, and what follows it; `fuel` bounds the depth and the
number of items, and `depth` is how deeply the value is nested. -/
def readValue (fuel depth : Nat) (text : Text) : Except Fault (Datum × Text) :=
  match fuel with
  | 0 => .error .malformed
  | fuel + 1 =>
    if maxDepth < depth then .error .tooDeep
    else
      match text with
      | '[' :: rest =>
        match skipFillers? rest with
        | some (']' :: after) => .ok (.array [], after)
        | some items =>
          (readItems fuel (depth + arrayDepth) items).map fun (data, after) =>
            (.array data, after)
        | none => .error .malformed
      | '{' :: rest =>
        match skipSpaces rest with
        | '}' :: after => .ok (.table [], after)
        | pairs =>
          (readPairs fuel (depth + tableDepth) [] pairs).map fun (entries, after) =>
            (.table (Draft.entriesToData entries), after)
      | _ => readPlain text

/-- The items of an array up to its closing bracket; a comma may stand before it. -/
def readItems (fuel depth : Nat) (text : Text) : Except Fault (List Datum × Text) :=
  match fuel with
  | 0 => .error .malformed
  | fuel + 1 =>
    match readValue fuel depth text with
    | .error fault => .error fault
    | .ok (datum, rest) =>
      match skipFillers? rest with
      | some (']' :: after) => .ok ([datum], after)
      | some (',' :: more) =>
        match skipFillers? more with
        | some (']' :: after) => .ok ([datum], after)
        | some next => (readItems fuel depth next).map fun (data, after) => (datum :: data, after)
        | none => .error .malformed
      | _ => .error .malformed

/-- The pairs of an inline table up to its closing brace, entered into `entries`. -/
def readPairs (fuel depth : Nat) (entries : Draft.Entries) (text : Text) :
    Except Fault (Draft.Entries × Text) :=
  match fuel with
  | 0 => .error .malformed
  | fuel + 1 =>
    match key? text with
    | some (path, '=' :: rest) =>
      match readValue fuel depth (skipSpaces rest) with
      | .error fault => .error fault
      | .ok (datum, after) =>
        match Draft.bindPath? path datum entries, skipSpaces after with
        | some entries, '}' :: final => .ok (entries, final)
        | some entries, ',' :: more => readPairs fuel depth entries (skipSpaces more)
        | _, _ => .error .malformed
    | _ => .error .malformed

end

/-- A document as far as it has been read: the tree, the path of the open section, and the
tables that dotted keys of this section have opened. -/
structure Document where
  entries : Draft.Entries := []
  header : List Text := []
  opened : List (List Text) := []

namespace Document

/-- The document once its section has ended: the tables opened by dotted keys are closed. -/
def endSection? (document : Document) : Option Document :=
  (document.opened.foldlM (fun entries path => Draft.close? path entries) document.entries).map
    fun entries => { document with entries := entries, opened := [] }

def openTable? (document : Document) (path : List Text) : Option Document := do
  let document ← document.endSection?
  guard (!Draft.isClosed path document.entries)
  let entries ← Draft.close? path document.entries
  return { document with entries := entries, header := path }

/-- Open the section of a new table in an array of tables. -/
def openItem? (document : Document) (path : List Text) : Option Document := do
  let document ← document.endSection?
  let key ← path.getLast?
  let entries ← Draft.enter? path.dropLast (Draft.appendTable? key) document.entries
  return { document with entries := entries, header := path }

/-- The paths of the tables that a dotted key goes through. -/
def waypoints (header path : List Text) : List (List Text) :=
  (List.range path.length).tail.map fun count => header ++ path.take count

/-- Enter a pair of the open section. A dotted key goes through no closed table. -/
def enterPair? (document : Document) (path : List Text) (datum : Datum) : Option Document := do
  let ways := waypoints document.header path
  guard (ways.all fun way => !Draft.isClosed way document.entries)
  let entries ← Draft.bindPath? (document.header ++ path) datum document.entries
  return { document with entries := entries, opened := document.opened ++ ways }

def header? (document : Document) (text : Text) : Option (Document × Text) :=
  match text with
  | '[' :: '[' :: rest =>
    match key? (skipSpaces rest) with
    | some (path, ']' :: ']' :: after) => (document.openItem? path).map (·, after)
    | _ => none
  | '[' :: rest =>
    match key? (skipSpaces rest) with
    | some (path, ']' :: after) => (document.openTable? path).map (·, after)
    | _ => none
  | _ => none

def readPair (document : Document) (text : Text) : Except Fault (Document × Text) :=
  match key? text with
  | some (path, '=' :: rest) =>
    match readValue (rest.length + 1) 0 (skipSpaces rest) with
    | .ok (datum, after) => orMalformed ((document.enterPair? path datum).map (·, after))
    | .error fault => .error fault
  | _ => .error .malformed

def readStatement (document : Document) (text : Text) : Except Fault (Document × Text) :=
  match text with
  | [] => .ok (document, [])
  | c :: rest =>
    if c = '\n' || c = '#' then .ok (document, c :: rest)
    else if c = '[' then orMalformed (document.header? (c :: rest))
    else document.readPair (c :: rest)

/-- Read all lines; `fuel` bounds their number. -/
def readLines : (fuel : Nat) → Document → Text → Except Fault Document
  | 0, _, _ => .error .malformed
  | fuel + 1, document, text =>
    match document.readStatement (skipSpaces text) with
    | .error fault => .error fault
    | .ok (document, after) =>
      match skipComment? (skipSpaces after) with
      | some [] => .ok document
      | some ('\n' :: rest) => readLines fuel document rest
      | _ => .error .malformed

end Document

/-- A text in which a carriage return before a newline belongs to the line end. -/
def plainNewlines : Text → Text
  | '\r' :: '\n' :: rest => '\n' :: plainNewlines rest
  | c :: rest => c :: plainNewlines rest
  | [] => []

/-- The table that a TOML document describes. -/
def read (text : Text) : Except Fault (List (Text × Datum)) :=
  let text := plainNewlines text
  (Document.readLines (text.length + 1) {} text).map fun document =>
    Draft.entriesToData document.entries

end CommentDocs.Toml
