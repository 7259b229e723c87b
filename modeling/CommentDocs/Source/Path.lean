import CommentDocs.Text.Basic

/-!
# Slash-separated paths

`collapse` removes the segments `.` and `..` by their meaning and keeps everything else,
empty segments included; a `..` that would climb above the start is dropped. `normalize`
gives the spelling of a file path: repeated slashes and `.` segments go, `..` stays,
exactly two slashes at the start stay two, and the empty path is `.`. `resolve` gives the
way from the root, on which no `..` is left.
-/

namespace CommentDocs.Path

open Text

def segments (path : Text) : List Text :=
  splitOn '/' path

def ofSegments (segments : List Text) : Text :=
  joinWith '/' segments

/-- The segments kept so far, after one more segment of the path. The empty first segment
of an absolute path is the root, and `..` does not leave it. -/
def collapseStep (kept : List Text) (segment : Text) : List Text :=
  if segment = "..".toList then
    if kept = [] ∨ kept = [[]] then kept else kept.dropLast
  else if segment = ".".toList then kept
  else kept ++ [segment]

/-- A path without the segments `.` and `..`. -/
def collapse (path : Text) : Text :=
  ofSegments ((segments path).foldl collapseStep [])

/-- The slashes at the start of a normal path: two if the path has exactly two, else one
if it has any. -/
def rootOf (path : Text) : Text :=
  match (path.takeWhile (· = '/')).length with
  | 0 => []
  | 2 => "//".toList
  | _ => "/".toList

def nameSegments (path : Text) : List Text :=
  (segments path).filter fun segment => segment ≠ [] && segment ≠ ".".toList

def normalize (path : Text) : Text :=
  match rootOf path ++ ofSegments (nameSegments path) with
  | [] => ".".toList
  | normal => normal

def child (directory name : Text) : Text :=
  normalize (directory ++ (if ['/'].isSuffixOf directory then name else '/' :: name))

/-- A path below a directory, unless it starts at the root itself. -/
def within (directory path : Text) : Text :=
  if path.head? = some '/' then path else directory ++ '/' :: path

/-- The names on the way down from the root, after one more name; `..` goes back up. -/
def descend (names : List Text) (name : Text) : List Text :=
  if name = "..".toList then names.dropLast else names ++ [name]

/-- The path from the root to what a path means below a directory. -/
def resolve (directory path : Text) : Text :=
  '/' :: ofSegments ((nameSegments (within directory path)).foldl descend [])

/-- The path of a home directory without slashes at its end. The root is one; what would
have to be looked up again is none. -/
def homeDirectory? (home : Text) : Option Text :=
  match dropWhileEnd (· = '/') home with
  | [] => some ['/']
  | '~' :: _ => none
  | directory => some directory

/-- The normal spelling of a path, in which `~` and the name of a user at the start stand
for the home directory of that user. `homeOf` gives the directory of a name; the empty name
is that of the user at hand. There is no path if that directory is not known. -/
def expand? (homeOf : Text → Option Text) (path : Text) : Option Text :=
  match normalize path with
  | '~' :: rest =>
    ((homeOf (rest.takeWhile (· ≠ '/'))).bind homeDirectory?).map fun directory =>
      match rest.dropWhile (· ≠ '/') with
      | [] => normalize directory
      | _ :: below => child directory below
  | normal => some normal

end CommentDocs.Path
