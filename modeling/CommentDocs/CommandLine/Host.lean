import CommentDocs.Source.Path
import CommentDocs.Syntax.Lexis
import CommentDocs.Text.Quoted
import CommentDocs.Text.Utf8

/-!
# The host of a command line

What commands need of the system they run on: files and directories, standard input, the
time, and a parser of source text. Commands are written for any host, so they run the same
way on a real system and on one held in memory.
-/

namespace CommentDocs.CommandLine

open Utf8 (Bytes)

/-- Why a system refuses to use a file or directory. -/
inductive Refusal where
  | missing
  | alreadyThere
  | notDirectory
  | isDirectory
  | tooLong
  /-- Another reason, with its number and its wording. -/
  | other (number : Nat) (wording : Text)
  deriving DecidableEq, Repr

namespace Refusal

def number : Refusal → Nat
  | .missing => 2
  | .alreadyThere => 17
  | .notDirectory => 20
  | .isDirectory => 21
  | .tooLong => 36
  | .other number _ => number

def wording : Refusal → Text
  | .missing => "No such file or directory".toList
  | .alreadyThere => "File exists".toList
  | .notDirectory => "Not a directory".toList
  | .isDirectory => "Is a directory".toList
  | .tooLong => "File name too long".toList
  | .other _ wording => wording

def message (refusal : Refusal) (path : Text) : Text :=
  "[Errno ".toList ++ (toString refusal.number).toList ++ "] ".toList ++ refusal.wording ++
    ": ".toList ++ Text.quoted path

end Refusal

inductive EntryKind where
  | file
  | directory
  deriving DecidableEq, Repr

/-- A system that commands run on. -/
class Host (m : Type → Type) where
  /-- The content of a file. -/
  read : Text → m (Except Refusal Bytes)
  /-- Replace the content of a file. -/
  write : Text → Bytes → m (Except Refusal Unit)
  /-- Add to the content of a file. -/
  append : Text → Bytes → m (Except Refusal Unit)
  /-- Make a directory in an existing one. -/
  makeDirectory : Text → m (Except Refusal Unit)
  /-- What stands at a path. -/
  kind? : Text → m (Option EntryKind)
  /-- The content of standard input. -/
  input : m Bytes
  /-- The time, as it is written into logs. -/
  time : m Text
  /-- The syntax tree of a source. -/
  parse : Text → m (Except Syntax.ParseFailure Syntax.Tree)

structure RefusedPath where
  refusal : Refusal
  path : Text
  deriving DecidableEq, Repr

def RefusedPath.message (refused : RefusedPath) : Text :=
  refused.refusal.message refused.path

section

variable {m : Type → Type} [Monad m] [Host m]

/-- Accept that a directory could not be made because it is there. -/
def tolerate (path : Text) : Except Refusal Unit → m (Except RefusedPath Unit)
  | .ok () => return .ok ()
  | .error refusal => do
    match ← Host.kind? path with
    | some .directory => return .ok ()
    | _ => return .error ⟨refusal, path⟩

/-- Make a directory and those above it, unless they are there. The names on the way from
`root` are given innermost first. -/
def makeDirectoriesBelow (root : Text) : List Text → m (Except RefusedPath Unit)
  | [] => return .ok ()
  | name :: above => do
    let path := root ++ Path.ofSegments (above.reverse ++ [name])
    match ← Host.makeDirectory path with
    | .error .missing =>
      match ← makeDirectoriesBelow root above with
      | .error refused => return .error refused
      | .ok () => tolerate path (← Host.makeDirectory path)
    | outcome => tolerate path outcome

/-- Make a directory and those above it, unless they are there. -/
def makeDirectories (path : Text) : m (Except RefusedPath Unit) :=
  makeDirectoriesBelow (Path.rootOf path) (Path.nameSegments path).reverse

end

end CommentDocs.CommandLine
