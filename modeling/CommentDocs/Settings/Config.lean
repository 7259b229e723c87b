import CommentDocs.Log.Level
import CommentDocs.Module.Id
import CommentDocs.Settings.Overlay

/-!
# The configuration

A configuration is checked when it is loaded and again with every assignment, so each
state of it is valid: the level is one of the five, texts have no blank margins, and the
path of the log file has its normal spelling. All offending settings are reported
together, each with the keys that lead to it.
-/

namespace CommentDocs.Settings

open Text

structure Config where
  logLevel : Level := .warning
  logFile : Option Text := none
  modules : ModuleMap := {}
  deriving DecidableEq, Repr

/-- Why a setting is not accepted. -/
inductive Cause where
  | notText
  | unknownLevel (word : Text)
  | notPath
  | notModules
  | notTable
  | unknownKey
  | unknownField (name : Text)
  deriving DecidableEq, Repr

def Cause.message : Cause → Text
  | .notText => "Input should be a valid string".toList
  | .unknownLevel word => "Value error, ".toList ++ Level.unsupported word
  | .notPath => "Input is not a valid path for <class 'pathlib.Path'>".toList
  | .notModules => "Input should be a valid dictionary or instance of ModuleIdSettings".toList
  | .notTable => "Input should be a valid dictionary".toList
  | .unknownKey => "Extra inputs are not permitted".toList
  | .unknownField name => "Object has no attribute '".toList ++ name ++ ['\'']

/-- An offending setting: the keys that lead to it, and why it is not accepted. -/
structure Issue where
  location : List Text
  cause : Cause
  deriving DecidableEq, Repr

namespace Issue

/-- The issue seen from one level further out. -/
def under (key : Text) (issue : Issue) : Issue :=
  { issue with location := key :: issue.location }

end Issue

/-- The outcome of a check: the accepted value or all issues. -/
abbrev Checked (α : Type) := Except (List Issue) α

namespace Checked

variable {α β γ : Type}

def issues : Checked α → List Issue
  | .ok _ => []
  | .error issues => issues

/-- An outcome whose issues are seen from one level further out. -/
def under (key : Text) : Checked α → Checked α
  | .ok value => .ok value
  | .error issues => .error (issues.map (Issue.under key))

/-- Two outcomes together; the issues of the first come first. -/
def both (first : Checked α) (second : Checked β) : Checked (α × β) :=
  match first, second with
  | .ok a, .ok b => .ok (a, b)
  | first, second => .error (first.issues ++ second.issues)

/-- An outcome that stands only if there are no further issues. -/
def withIssues (outcome : Checked α) (further : List Issue) : Checked α :=
  match outcome, further with
  | .ok value, [] => .ok value
  | outcome, further => .error (outcome.issues ++ further)

theorem under_eq_ok_iff {key : Text} {outcome : Checked α} {value : α} :
    outcome.under key = .ok value ↔ outcome = .ok value := by
  cases outcome <;> simp [under]

theorem map_eq_ok_iff {f : α → β} {outcome : Checked α} {value : β} :
    Except.map f outcome = .ok value ↔ ∃ before, outcome = .ok before ∧ f before = value := by
  cases outcome <;> simp [Except.map]

theorem both_eq_ok_iff {first : Checked α} {second : Checked β} {pair : α × β} :
    first.both second = .ok pair ↔ first = .ok pair.1 ∧ second = .ok pair.2 := by
  cases first <;> cases second <;> simp [both, Prod.ext_iff]

theorem withIssues_eq_ok_iff {outcome : Checked α} {further : List Issue} {value : α} :
    outcome.withIssues further = .ok value ↔ outcome = .ok value ∧ further = [] := by
  cases outcome <;> cases further <;> simp [withIssues]

end Checked

/-- A single issue at the place that is being checked. -/
def refuse {α : Type} (cause : Cause) : Checked α :=
  .error [⟨[], cause⟩]

def stripped (text : Text) : Text :=
  dropWhileEnd isMargin (text.dropWhile isMargin)

def checkText : Datum → Checked Text
  | .text value => .ok (stripped value)
  | _ => refuse .notText

def checkLevel : Datum → Checked Level
  | .text value =>
    match Level.ofWord? (stripped value) with
    | some level => .ok level
    | none => refuse (.unknownLevel (stripped value))
  | _ => refuse .notText

def checkPath : Datum → Checked (Option Text)
  | .null => .ok none
  | .text value => .ok (some (Path.normalize (stripped value)))
  | _ => refuse .notPath

/-- The entries of a table of texts. Keys that become equal without their margins share
the first one's place and the last one's value. -/
def checkEntries (entries : List (Text × Datum)) (known : Table Text) : Checked (Table Text) :=
  match entries with
  | [] => .ok known
  | (key, datum) :: rest =>
    match (checkText datum).under key with
    | .ok value => checkEntries rest (known.put (stripped key) value)
    | .error issues => .error (issues ++ (checkEntries rest known).issues)

def checkTable : Datum → Checked (Table Text)
  | .table entries => checkEntries entries {}
  | _ => refuse .notTable

/-- The outcome for one field of a table; a missing field has its default. -/
def field {α : Type} (layer : Layer) (key : Text) (default : α) (check : Datum → Checked α) :
    Checked α :=
  match Table.find? key layer with
  | some datum => (check datum).under key
  | none => .ok default

/-- A field is accepted with the value that the layer has for it, or else with its default. -/
theorem field_eq_ok_iff {α : Type} {layer : Layer} {key : Text} {default value : α}
    {check : Datum → Checked α} :
    field layer key default check = .ok value ↔
      (∃ datum, Table.find? key layer = some datum ∧ check datum = .ok value) ∨
        Table.find? key layer = none ∧ default = value := by
  unfold field
  cases Table.find? key layer <;> simp [Checked.under_eq_ok_iff]

def undeclared (layer : Layer) (declared : List Text) : List Issue :=
  (layer.filter fun entry => !declared.contains entry.1).map fun entry =>
    ⟨[entry.1], .unknownKey⟩

/-! The names of the settings. -/

namespace Key

def logLevel : Text := "log_level".toList

def logFile : Text := "log_file".toList

def modules : Text := "modules".toList

def baseUrl : Text := "base_url".toList

def prefixMap : Text := "prefix_map".toList

end Key

def checkModuleFields (layer : Layer) : Checked ModuleMap :=
  let fields :=
    (field layer Key.baseUrl [] checkText).both (field layer Key.prefixMap {} checkTable)
  Checked.withIssues (fields.map fun (baseUrl, prefixes) => ⟨baseUrl, prefixes⟩)
    (undeclared layer [Key.baseUrl, Key.prefixMap])

/-- Module settings are accepted field by field, and with no other field. -/
theorem checkModuleFields_eq_ok_iff {layer : Layer} {modules : ModuleMap} :
    checkModuleFields layer = .ok modules ↔
      (field layer Key.baseUrl [] checkText = .ok modules.baseUrl ∧
        field layer Key.prefixMap {} checkTable = .ok modules.prefixes) ∧
      undeclared layer [Key.baseUrl, Key.prefixMap] = [] := by
  simp only [checkModuleFields, Checked.withIssues_eq_ok_iff, Checked.map_eq_ok_iff,
    Checked.both_eq_ok_iff]
  constructor
  · rintro ⟨⟨fields, accepted, rfl⟩, declared⟩
    exact ⟨accepted, declared⟩
  · rintro ⟨accepted, declared⟩
    exact ⟨⟨(modules.baseUrl, modules.prefixes), accepted, rfl⟩, declared⟩

def checkModules : Datum → Checked ModuleMap
  | .table entries => checkModuleFields entries
  | _ => refuse .notModules

def check (layer : Layer) : Checked Config :=
  let fields :=
    (field layer Key.logLevel .warning checkLevel).both
      ((field layer Key.logFile none checkPath).both (field layer Key.modules {} checkModules))
  Checked.withIssues (fields.map fun (logLevel, logFile, modules) => ⟨logLevel, logFile, modules⟩)
    (undeclared layer [Key.logLevel, Key.logFile, Key.modules])

/-- A configuration is accepted field by field, and with no other field. -/
theorem check_eq_ok_iff {layer : Layer} {config : Config} :
    check layer = .ok config ↔
      (field layer Key.logLevel .warning checkLevel = .ok config.logLevel ∧
        field layer Key.logFile none checkPath = .ok config.logFile ∧
        field layer Key.modules {} checkModules = .ok config.modules) ∧
      undeclared layer [Key.logLevel, Key.logFile, Key.modules] = [] := by
  simp only [check, Checked.withIssues_eq_ok_iff, Checked.map_eq_ok_iff, Checked.both_eq_ok_iff]
  constructor
  · rintro ⟨⟨fields, accepted, rfl⟩, declared⟩
    exact ⟨accepted, declared⟩
  · rintro ⟨accepted, declared⟩
    exact ⟨⟨(config.logLevel, config.logFile, config.modules), accepted, rfl⟩, declared⟩

/-- The configuration of several layers, the first one at the bottom. -/
def load (defaults : Layer) (layers : List Layer) : Checked Config :=
  check (merged defaults layers)

/-- The field that an assignment names. -/
inductive Target where
  /-- A field of the configuration. -/
  | config (name : Text)
  /-- A field of the module settings. -/
  | modules (name : Text)
  deriving DecidableEq, Repr

namespace Target

def name : Target → Text
  | .config name => name
  | .modules name => name

/-- Whether the name is private: those that start with an underscore are. -/
def isPrivate (target : Target) : Bool :=
  target.name.head? = some '_'

end Target

namespace Config

def assignModules (config : Config) (name : Text) (datum : Datum) : Checked Config :=
  if name = Key.baseUrl then
    ((checkText datum).under name).map fun baseUrl =>
      { config with modules := { config.modules with baseUrl } }
  else if name = Key.prefixMap then
    ((checkTable datum).under name).map fun prefixes =>
      { config with modules := { config.modules with prefixes } }
  else .error [⟨[name], .unknownField name⟩]

def assignField (config : Config) (name : Text) (datum : Datum) : Checked Config :=
  if name = Key.logLevel then
    ((checkLevel datum).under name).map fun logLevel => { config with logLevel }
  else if name = Key.logFile then
    ((checkPath datum).under name).map fun logFile => { config with logFile }
  else if name = Key.modules then
    ((checkModules datum).under name).map fun modules => { config with modules }
  else .error [⟨[name], .unknownField name⟩]

/-- Assign a field; the configuration is replaced only if the datum is accepted. A private
name is no setting, so anything may be assigned to it and nothing changes. -/
def assign (config : Config) (target : Target) (datum : Datum) : Checked Config :=
  if target.isPrivate then .ok config
  else
    match target with
    | .config name => config.assignField name datum
    | .modules name => config.assignModules name datum

/-- The configuration after each of several assignments, with the issues of those that
were refused. -/
def assignAll (config : Config) : List (Target × Datum) → List (Config × List Issue)
  | [] => []
  | (target, datum) :: rest =>
    match config.assign target datum with
    | .ok next => (next, []) :: next.assignAll rest
    | .error issues => (config, issues) :: config.assignAll rest

end Config

end CommentDocs.Settings
