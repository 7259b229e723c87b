import CommentDocs.Source.Path
import CommentDocs.Table

/-!
# Module identifiers

A module map names modules and the directories below a base in which their files lie.
The identifier of a file is the module whose directory contains it, followed by the path
below that directory; the longest such directory wins, the earliest among equals. A file
`main.js` directly in the directory is the module itself, and a file in none of the
directories is identified by its cleaned path.
-/

namespace CommentDocs

open Text

/-- Module names with their paths below a base directory. -/
structure ModuleMap where
  baseUrl : Text := []
  prefixes : Table Text := {}
  deriving DecidableEq, Repr

namespace ModuleMap

/-- A module with the directory that holds its files, slash included. -/
structure Home where
  module : Text
  directory : Text
  deriving DecidableEq, Repr

/-- A directory path that ends in a slash, so that it is no beginning of another name. -/
def closed (directory : Text) : Text :=
  if ['/'].isSuffixOf directory then directory else directory ++ ['/']

/-- The directories of all modules, in the order of the map. -/
def homes (map : ModuleMap) : List Home :=
  map.prefixes.entries.map fun entry => ⟨entry.1, closed (map.baseUrl ++ entry.2)⟩

/-- The better of two homes of a path: the later one only if its directory is longer. -/
def better (best : Option Home) (next : Home) : Option Home :=
  match best with
  | none => some next
  | some home => if home.directory.length < next.directory.length then some next else some home

/-- The home of a path: of the directories that contain it, the longest and earliest. -/
def home? (map : ModuleMap) (path : Text) : Option Home :=
  (map.homes.filter fun home => home.directory.isPrefixOf path).foldl better none

/-- A path without the extension `.js`, also when a newline follows the extension. -/
def withoutExtension (path : Text) : Text :=
  if ".js\n".toList.isSuffixOf path then dropSuffix ".js\n".toList path ++ ['\n']
  else dropSuffix ".js".toList path

/-- A path without its leading slash and its extension. -/
def cleaned (path : Text) : Text :=
  match withoutExtension path with
  | '/' :: rest => rest
  | rest => rest

def idOfCollapsed (map : ModuleMap) (path : Text) : Text :=
  match map.home? path with
  | none => cleaned path
  | some home =>
    let remainder := cleaned (path.drop home.directory.length)
    if remainder = "main".toList then home.module else home.module ++ '/' :: remainder

def idOf (map : ModuleMap) (path : Text) : Text :=
  map.idOfCollapsed (Path.collapse path)

end ModuleMap

end CommentDocs
