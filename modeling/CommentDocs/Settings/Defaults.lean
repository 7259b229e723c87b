import CommentDocs.Settings.Config
import CommentDocs.Toml.Reader

/-!
# Packaged settings

The bottom layer of every configuration is a settings file that comes with the program.
It is the one resource that can be asked for by name.
-/

namespace CommentDocs.Settings

def defaultsName : Text := "dojodoc.defaults.toml".toList

def defaultsText : Text :=
  "# Packaged defaults for dojodoc.
# Precedence: CLI flags > env vars > dojodoc.toml > these defaults.

log_level = \"WARNING\"

[modules]
# Directory prefixed to every prefix_map entry when deriving module ids.
base_url = \"\"

# Module name -> path below base_url, e.g. dojo = \"dojo\".
[modules.prefix_map]
".toList

def defaults : Layer :=
  (Toml.read defaultsText).toOption.getD []

/-- The names on the way to the directory of the packaged resources. -/
def resourceDirectory : List Text := ["dojodoc".toList, "resources".toList]

/-- Where a path leads from one of the packaged directories. Every name on the way must be
such a directory, and nothing above them is packaged. -/
def packagedAddress? (address : List Text) : List Text → Option (List Text)
  | [] => some address
  | name :: rest =>
    if address.isPrefixOf resourceDirectory && (name ≠ "..".toList || address ≠ []) then
      packagedAddress? (Path.descend address name) rest
    else none

/-- The packaged resource that a path names, seen from the directory of the resources. -/
def packagedText? (path : Text) : Option Text :=
  if path.head? = some '/' then none
  else if packagedAddress? resourceDirectory (Path.nameSegments path) =
      some (resourceDirectory ++ [defaultsName]) then some defaultsText
  else none

def fileName : Text := "dojodoc.toml".toList

end CommentDocs.Settings
