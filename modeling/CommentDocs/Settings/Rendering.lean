import CommentDocs.Settings.Environment
import CommentDocs.Toml.Writer

/-!
# The configuration as a settings file

A configuration is written as a TOML document that reads back as the same settings. The
module names are listed in code point order.
-/

namespace CommentDocs.Settings

open Text Toml

def headline : List Text :=
  ["Generated by dojodoc init".toList,
   "Later layers win: defaults, this file, DOJODOC_* env, CLI flags".toList] ++
  variablePaths.map fun (stem, _) => "  ".toList ++ variableStem ++ stem

/-- The entries of a table in the code point order of their keys. -/
def sortedEntries (table : Table Text) : List (Text × Text) :=
  table.entries.mergeSort fun a b => !precedes b.1 a.1

def render (config : Config) : Text :=
  headline.flatMap commentLine ++ ['\n'] ++
  pairLine Key.logLevel config.logLevel.name ++
  (config.logFile.map (pairLine Key.logFile)).getD [] ++ ['\n'] ++
  headerLine [Key.modules] ++ pairLine Key.baseUrl config.modules.baseUrl ++ ['\n'] ++
  headerLine [Key.modules, Key.prefixMap] ++
  (sortedEntries config.modules.prefixes).flatMap fun (key, value) => pairLine key value

end CommentDocs.Settings
