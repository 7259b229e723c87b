import CommentDocs.CommandLine.Run
import Std.Time

/-!
# The program

The command line on the system that the program is started on. No parser of source text is
linked into it, so `document` says that one is required.
-/

namespace CommentDocs.CommandLine

/-- The number of an error, which some uses of the system report below zero. -/
def errorNumber (number : UInt32) : Nat :=
  min number.toNat (0 - number).toNat

def refusalOf : IO.Error → Refusal
  | .noFileOrDirectory _ _ _ => .missing
  | .alreadyExists _ _ _ => .alreadyThere
  | .inappropriateType _ number _ =>
    if errorNumber number = 21 then .isDirectory else .notDirectory
  | .invalidArgument _ number _ =>
    if errorNumber number = 36 then .tooLong
    else .other (errorNumber number) "Invalid argument".toList
  | .permissionDenied _ number _ => .other (errorNumber number) "Permission denied".toList
  | error => .other 5 error.toString.toList

/-- What a use of the system gives, or why it was refused. -/
def attempt {α : Type} (use : IO α) : IO (Except Refusal α) := do
  try
    return .ok (← use)
  catch error =>
    return .error (refusalOf error)

instance : Host IO where
  read path := attempt do return (← IO.FS.readBinFile (String.ofList path)).toList
  write path content := attempt do
    IO.FS.writeBinFile (String.ofList path) ⟨content.toArray⟩
  append path content := attempt do
    let handle ← IO.FS.Handle.mk (String.ofList path) .append
    handle.write ⟨content.toArray⟩
  makeDirectory path := attempt do IO.FS.createDir (String.ofList path)
  kind? path := do
    try
      match (← ((← IO.currentDir) / String.ofList path).metadata).type with
      | .dir => return some .directory
      | _ => return some .file
    catch _ => return none
  input := return (← (← IO.getStdin).readBinToEnd).toList
  time := do
    let now := Std.Time.DateTime.ofTimestamp (← Std.Time.Timestamp.now) .UTC
    return (now.format "uuuu-MM-dd'T'HH:mm:ss.SSSSSS'Z'").toList
  parse _ := return .error .missing

def variableNames : List Text :=
  "HOME".toList :: "COLUMNS".toList :: Settings.variablePaths.map fun (stem, _) =>
    Settings.variableStem ++ stem

/-- The name and the home directory in a line of the list of users, whose fields stand
between colons. -/
def userHome? (line : Text) : Option (Text × Text) :=
  match Text.splitOn ':' line with
  | name :: _ :: _ :: _ :: _ :: directory :: _ => some (name, directory)
  | _ => none

def userHomes : IO (Table Text) := do
  try
    let lines ← IO.FS.lines "/etc/passwd"
    return ⟨lines.toList.filterMap fun line => userHome? line.toList⟩
  catch _ => return {}

def surroundings : IO Surroundings := do
  let environment ← variableNames.filterMapM fun name => do
    return (← IO.getEnv (String.ofList name)).map fun value => (name, value.toList)
  return {
    directory := (← IO.currentDir).toString.toList
    homes := ← userHomes
    environment := ⟨environment⟩ }

end CommentDocs.CommandLine

open CommentDocs.CommandLine in
/-- Carry out the command line that the program was started with. -/
def main (arguments : List String) : IO UInt32 := do
  let run : Run IO CommentDocs.Text := carryOut (← surroundings) (arguments.map String.toList)
  match ← run.run with
  | .ok output =>
    IO.print (String.ofList output)
    return 0
  | .error failure =>
    IO.eprintln (String.ofList failure.message)
    return failure.status.toUInt32
