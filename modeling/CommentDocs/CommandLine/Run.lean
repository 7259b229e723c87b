import CommentDocs.CommandLine.Arguments
import CommentDocs.CommandLine.Host
import CommentDocs.Comment.Export
import CommentDocs.Comment.Reading
import CommentDocs.Json.Writer
import CommentDocs.Log.Message
import CommentDocs.Module.Walk
import CommentDocs.Outline.Drawing
import CommentDocs.Settings.Defaults
import CommentDocs.Settings.Rendering
import CommentDocs.Source.Fence
import CommentDocs.Text.Styles

/-!
# Running commands

A command line is carried out in this order: it is read up to the name of the command, the
settings are loaded, the log is set up, the command's own arguments are read, and the
command runs. So wrong settings are noticed before wrong arguments of the command.
-/

namespace CommentDocs.CommandLine

open Utf8 (Bytes)

/-- Where a command line runs: the working directory as an absolute path, the home
directories of users by name, and the variables of the environment. -/
structure Surroundings where
  directory : Text
  homes : Table Text := {}
  environment : Table Text := {}

namespace Surroundings

/-- The home directory of a user; the empty name is that of the user at hand. -/
def homeOf (surroundings : Surroundings) (user : Text) : Option Text :=
  if user = [] then surroundings.environment.get? "HOME".toList
  else surroundings.homes.get? user

/-- The width of the page that outlines are drawn on; the environment may give the number
of its columns. -/
def pageWidth (surroundings : Surroundings) : Nat :=
  match surroundings.environment.get? "COLUMNS".toList with
  | some (c :: rest) =>
    if (c :: rest).all Toml.isDigit then Toml.digitsValue 10 (c :: rest) else Outline.pageWidth
  | _ => Outline.pageWidth

end Surroundings

/-- What stops a command without being its own complaint. -/
inductive Breakdown where
  | undecodable (fault : Utf8.Fault)
  | unreadable (fault : Toml.Fault)
  | refused (target : RefusedPath)
  | homeless
  | nulInPath
  deriving DecidableEq, Repr

def Breakdown.message : Breakdown → Text
  | .undecodable fault => fault.message
  | .unreadable fault => fault.message
  | .refused target => target.message
  | .homeless => "Could not determine home directory.".toList
  | .nulInPath => "embedded null byte".toList

inductive Failure where
  | misuse (cause : Misuse)
  | complaint (message : Text)
  | breakdown (cause : Breakdown)
  deriving DecidableEq, Repr

def Failure.status : Failure → Nat
  | .misuse _ => 2
  | .complaint _ => 1
  | .breakdown _ => 1

def Failure.message : Failure → Text
  | .misuse cause => cause.message
  | .complaint message => message
  | .breakdown cause => cause.message

variable {m : Type → Type} [Monad m] [Host m]

abbrev Run (m : Type → Type) := ExceptT Failure m

section

def complain {α : Type} (message : Text) : Run m α :=
  throw (.complaint (Text.withoutStyles message))

def breakDown {α : Type} (breakdown : Breakdown) : Run m α :=
  throw (.breakdown breakdown)

def nul : Char := '\x00'

/-- A path in which `~` has been replaced by the home directory. -/
def expanded (surroundings : Surroundings) (path : Text) : Run m Text :=
  if path.contains nul then breakDown .nulInPath
  else
    match Path.expand? surroundings.homeOf path with
    | some path => return path
    | none => breakDown .homeless

def readSettings (path : Text) : Run m Settings.Layer := do
  match ← Host.read (m := m) path with
  | .error refusal =>
    complain ("Configuration error: Cannot read config ".toList ++ path ++ ": ".toList ++
      refusal.message path)
  | .ok content =>
    match Utf8.decode content with
    | .error fault => breakDown (.undecodable fault)
    | .ok text =>
      match Toml.read text with
      | .ok layer => return layer
      | .error .malformed =>
        complain ("Configuration error: ".toList ++ Toml.Fault.message .malformed ++
          " in ".toList ++ path)
      | .error fault => breakDown (.unreadable fault)

/-- The layer of the settings file that is chosen, or of the one in the working directory
if there is one. -/
def userSettings (surroundings : Surroundings) (chosen : Option Text) :
    Run m Settings.Layer := do
  match chosen with
  | some path => readSettings (← expanded surroundings path)
  | none =>
    match ← Host.kind? (m := m) Settings.fileName with
    | some .file => readSettings Settings.fileName
    | _ => return []

def issuesMessage (issues : List Settings.Issue) : Text :=
  let noun := if issues.length = 1 then " validation error" else " validation errors"
  "Configuration error: Invalid configuration: ".toList ++ (toString issues.length).toList ++
    noun.toList ++ " for AppConfig".toList

def chosenLevel : Option Text → Settings.Layer
  | none | some [] => []
  | some level => [(Settings.Key.logLevel, .text level)]

def configure (surroundings : Surroundings) (invocation : Invocation) :
    Run m Settings.Config := do
  let layers := [← userSettings surroundings invocation.settings,
    Settings.ofEnvironment surroundings.environment, chosenLevel invocation.level]
  match Settings.load Settings.defaults layers with
  | .ok config => return config
  | .error issues => complain (issuesMessage issues)

/-- Where the messages of a command go: to a file if there is one, from a level on. -/
structure Recorder where
  level : Level
  file : Option Text
  command : CommandName
  deriving DecidableEq, Repr

def loggerName : Text := "dojodoc.cli".toList

def logLine (command : CommandName) (time : Text) (message : Log.Message) : Text :=
  let fields := Table.ofList [("command".toList, .text command.word)]
  let line := ((message.withFields fields).entry loggerName).line.put Log.timeField (.text time)
  Json.compact (.table (line.entries.mergeSort fun a b => !Text.precedes b.1 a.1)) ++ ['\n']

def record (recorder : Recorder) (message : Log.Message) : Run m Unit := do
  match recorder.file with
  | none => return
  | some file =>
    if recorder.level.number ≤ message.level.number then
      let line := logLine recorder.command (← Host.time (m := m)) message
      match ← Host.append (m := m) file (Utf8.encode line) with
      | .ok () => return
      | .error refusal => breakDown (.refused ⟨refusal, file⟩)

def recordAll (recorder : Recorder) : List Log.Message → Run m Unit
  | [] => return
  | message :: rest => do
    record recorder message
    recordAll recorder rest

/-- Set up the log. The directories above its file are made at once, the file itself with
its first line. -/
def openLog (surroundings : Surroundings) (config : Settings.Config) (command : CommandName) :
    Run m Recorder := do
  match config.logFile with
  | none => return { level := config.logLevel, file := none, command }
  | some path =>
    if path.contains nul then
      complain ("Configuration error: ".toList ++ Breakdown.message .nulInPath)
    let file := Path.resolve surroundings.directory (← expanded surroundings path)
    match ← makeDirectories (m := m) (Path.resolve file "..".toList) with
    | .ok () => return { level := config.logLevel, file := some file, command }
    | .error refused => breakDown (.refused refused)

/-- The operand that stands for standard input. -/
def inputOperand : Text := ['-']

def readText (path shown : Text) : Run m Text := do
  let refuse (reason : Text) : Run m Text :=
    complain ("Failed to read ".toList ++ shown ++ ": ".toList ++ reason)
  match ← Host.read (m := m) path with
  | .error refusal => refuse (refusal.message path)
  | .ok content =>
    match Utf8.decode content with
    | .error fault => refuse fault.message
    | .ok text => return Text.withNewlines text

/-- The text of an operand: a file, or standard input. -/
def readOperand (surroundings : Surroundings) (operand : Text) : Run m Text := do
  if operand = inputOperand then
    match Utf8.decode (← Host.input (m := m)) with
    | .error fault => breakDown (.undecodable fault)
    | .ok text => return Text.withNewlines text
  else readText (← expanded surroundings operand) operand

/-- Write a settings file into a directory. -/
def runInit (surroundings : Surroundings) (config : Settings.Config) (recorder : Recorder)
    (directory : Text) (force : Bool) : Run m Text := do
  let refuse (refused : RefusedPath) : Run m Unit :=
    complain ("Failed to write config: ".toList ++ refused.message)
  let directory ← expanded surroundings directory
  let path := Path.child directory Settings.fileName
  match ← makeDirectories (m := m) directory with
  | .ok () => pure ()
  | .error refused => refuse refused
  let isKept := (← Host.kind? (m := m) path).isSome && !force
  if !isKept then
    match ← Host.write (m := m) path (Utf8.encode (Settings.render config)) with
    | .ok () => pure ()
    | .error refusal => refuse ⟨refusal, path⟩
  record recorder ⟨.info, "init-complete".toList,
    .ofList [("path".toList, .text path), ("written".toList, .boolean !isKept)]⟩
  if isKept then return path ++ " already exists; use --force to overwrite.\n".toList
  else return "Wrote ".toList ++ path ++ ['\n']

def runComment (surroundings : Surroundings) (recorder : Recorder) (file : Text)
    (key : Option Text) : Run m Text := do
  let doc := Comment.read (← readOperand surroundings file) key
  let names := doc.entries.names.mergeSort fun a b => !Text.precedes b a
  record recorder ⟨.debug, "comment-parsed".toList,
    .ofList [("properties".toList, Comment.textItems names),
      ("for_key".toList, (key.map Datum.text).getD .null)]⟩
  return Json.indented 0 doc.datum ++ ['\n']

/-- Print the outline of a module. -/
def runDocument (surroundings : Surroundings) (config : Settings.Config)
    (recorder : Recorder) (file : Text) : Run m Text := do
  let path := Path.resolve surroundings.directory (← expanded surroundings file)
  let source := Fence.strip (← readText path path)
  match ← Host.parse (m := m) source with
  | .error failure => complain failure.message
  | .ok tree =>
    let docs := ModuleDocs.ofSource (config.modules.idOf path) source tree
    recordAll recorder docs.messages
    return docs.outline.render surroundings.pageWidth

/-- Run a command; the answer is what it prints. An outline is drawn as it is, everything
else is printed without style codes. -/
def runCommand (surroundings : Surroundings) (config : Settings.Config) (recorder : Recorder) :
    Command → Run m Text
  | .init directory force =>
    return Text.withoutStyles (← runInit surroundings config recorder directory force)
  | .moduleId paths =>
    return Text.withoutStyles (paths.flatMap fun path => config.modules.idOf path ++ ['\n'])
  | .comment file key => runComment surroundings recorder file key
  | .preprocess file =>
    return Text.withoutStyles (Fence.strip (← readOperand surroundings file))
  | .document file => runDocument surroundings config recorder file

/-- What is right about a command line, or its misuse as a failure. -/
def orMisuse {α : Type} : Except Misuse α → Run m α
  | .ok value => return value
  | .error misuse => throw (.misuse misuse)

/-- Carry out a command line; the answer is what it prints. -/
def carryOut (surroundings : Surroundings) (arguments : List Text) : Run m Text := do
  let invocation ← orMisuse (Invocation.ofArguments arguments)
  let config ← configure surroundings invocation
  let recorder ← openLog surroundings config invocation.command
  let command ← orMisuse (Command.ofArguments invocation.command invocation.arguments)
  runCommand surroundings config recorder command

end

end CommentDocs.CommandLine
