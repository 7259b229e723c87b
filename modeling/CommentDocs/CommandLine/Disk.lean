import CommentDocs.CommandLine.Host

/-!
# A host held in memory

A disk is a tree of directories and files without links. The address of an entry is the
list of names on the way down from the root. A path is walked name by name, and every name
on the way must be a directory, also one that `..` leaves again.
-/

namespace CommentDocs.CommandLine

open Utf8 (Bytes)

/-- The names on the way down from the root. -/
abbrev Address := List Text

/-- Directories and files, the working directory, and what else commands need. -/
structure Disk where
  here : Address := []
  directories : List Address := []
  files : List (Address × Bytes) := []
  input : Bytes := []
  time : Text := []
  parse : Except Syntax.ParseFailure Syntax.Tree := .error .missing

namespace Disk

def file? (disk : Disk) (address : Address) : Option Bytes :=
  (disk.files.find? fun file => file.1 = address).map (·.2)

def kindAt? (disk : Disk) (address : Address) : Option EntryKind :=
  if (disk.file? address).isSome then some .file
  else if address = [] || disk.directories.contains address then some .directory
  else none

def maxNameBytes : Nat := 255

def maxPathBytes : Nat := 4095

/-- Go on from an address along names. -/
def walk (disk : Disk) (address : Address) : List Text → Except Refusal Address
  | [] => .ok address
  | name :: rest =>
    match disk.kindAt? address with
    | none => .error .missing
    | some .file => .error .notDirectory
    | some .directory =>
      if maxNameBytes < (Utf8.encode name).length then .error .tooLong
      else disk.walk (Path.descend address name) rest

/-- The address of a path, at which there may be nothing yet. -/
def address (disk : Disk) (path : Text) : Except Refusal Address :=
  if maxPathBytes < (Utf8.encode path).length then .error .tooLong
  else disk.walk (if path.head? = some '/' then [] else disk.here) (Path.nameSegments path)

def put (disk : Disk) (address : Address) (content : Bytes) : Disk :=
  if (disk.file? address).isSome then
    { disk with
      files := disk.files.map fun file => if file.1 = address then (address, content) else file }
  else { disk with files := disk.files ++ [(address, content)] }

def putDirectory (disk : Disk) (address : Address) : Disk :=
  { disk with directories := disk.directories ++ [address] }

def withDirectory (disk : Disk) (address : Address) : Disk :=
  (List.range address.length).foldl (fun disk count =>
    let above := address.take (count + 1)
    if disk.directories.contains above then disk else disk.putDirectory above) disk

def withFile (disk : Disk) (address : Address) (content : Bytes) : Disk :=
  (disk.withDirectory address.dropLast).put address content

def read (disk : Disk) (path : Text) : Except Refusal Bytes := do
  let address ← disk.address path
  match disk.file? address, disk.kindAt? address with
  | some content, _ => return content
  | none, some _ => throw .isDirectory
  | none, none => throw .missing

/-- The disk once the file at a path has been changed; a missing file counts as empty. -/
def change (disk : Disk) (path : Text) (change : Bytes → Bytes) : Except Refusal Disk := do
  let address ← disk.address path
  match disk.kindAt? address with
  | some .directory => throw .isDirectory
  | _ => return disk.put address (change ((disk.file? address).getD []))

def makeDirectory (disk : Disk) (path : Text) : Except Refusal Disk := do
  let address ← disk.address path
  match disk.kindAt? address with
  | some _ => throw .alreadyThere
  | none => return disk.putDirectory address

def kind? (disk : Disk) (path : Text) : Option EntryKind :=
  match disk.address path with
  | .ok address => disk.kindAt? address
  | .error _ => none

end Disk

/-- Replace the disk, unless the change was refused. -/
def settle (outcome : Except Refusal Disk) : StateM Disk (Except Refusal Unit) := do
  match outcome with
  | .ok disk =>
    set disk
    return .ok ()
  | .error refusal => return .error refusal

instance : Host (StateM Disk) where
  read path := return (← get).read path
  write path content := do settle ((← get).change path fun _ => content)
  append path content := do settle ((← get).change path (· ++ content))
  makeDirectory path := do settle ((← get).makeDirectory path)
  kind? path := return (← get).kind? path
  input := return (← get).input
  time := return (← get).time
  parse _ := return (← get).parse

end CommentDocs.CommandLine
