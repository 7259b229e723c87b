import CommentDocs.Settings.Config

/-!
# Settings from environment variables

Three settings can be given by variables of the environment. An empty variable counts as
missing.
-/

namespace CommentDocs.Settings

def variableStem : Text := "DOJODOC_".toList

/-- The rest of each variable's name, with the keys that lead to its setting. -/
def variablePaths : List (Text × List Text) :=
  [("LOG_LEVEL".toList, [Key.logLevel]), ("LOG_FILE".toList, [Key.logFile]),
   ("BASE_URL".toList, [Key.modules, Key.baseUrl])]

/-- A layer that sets one text under a path of keys. -/
def singleton (path : List Text) (value : Text) : Datum :=
  match path with
  | [] => .text value
  | key :: rest => .table [(key, singleton rest value)]

def ofEnvironment (environment : Table Text) : Layer :=
  variablePaths.foldl (fun layer (stem, path) =>
    match environment.get? (variableStem ++ stem) with
    | some (c :: rest) =>
      match singleton path (c :: rest) with
      | .table entries => overlay layer entries
      | _ => layer
    | _ => layer) []

end CommentDocs.Settings
