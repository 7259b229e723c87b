import CommentDocs.Proofs.Settings.Validity

/-!
# Assignments keep settings valid

An assignment is checked before anything is changed. One that is accepted leaves settings as valid
as an accepted configuration, one that is refused leaves them as they were, even if the datum is a
table in which a single entry is wrong. By induction this holds of every state that a sequence of
assignments goes through.
-/

namespace CommentDocs.Settings

open Text

namespace Checked

variable {α β : Type}

/-- If the outcome is a refusal, it names at least one issue. -/
def IsTold (outcome : Checked α) : Prop :=
  outcome ≠ .error []

theorem isTold_ok (value : α) : IsTold (.ok value : Checked α) := by
  simp [IsTold]

theorem isTold_refuse (cause : Cause) : IsTold (refuse cause : Checked α) := by
  simp [IsTold, refuse]

theorem IsTold.under {outcome : Checked α} (told : outcome.IsTold) (key : Text) :
    (outcome.under key).IsTold := by
  cases outcome <;> simp_all [IsTold, Checked.under]

theorem IsTold.map {outcome : Checked α} (told : outcome.IsTold) (f : α → β) :
    IsTold (Except.map f outcome : Checked β) := by
  cases outcome <;> simp_all [IsTold, Except.map]

theorem IsTold.both {first : Checked α} {second : Checked β} (one : first.IsTold)
    (other : second.IsTold) : (first.both second).IsTold := by
  cases first <;> cases second <;> simp_all [IsTold, Checked.both, issues]

theorem IsTold.withIssues {outcome : Checked α} (told : outcome.IsTold) (further : List Issue) :
    (outcome.withIssues further).IsTold := by
  cases outcome <;> cases further <;> simp_all [IsTold, Checked.withIssues, issues]

end Checked

theorem isTold_checkText (datum : Datum) : (checkText datum).IsTold := by
  cases datum with
  | text text => exact Checked.isTold_ok _
  | _ => exact Checked.isTold_refuse _

theorem isTold_checkLevel (datum : Datum) : (checkLevel datum).IsTold := by
  cases datum with
  | text text =>
    simp only [checkLevel]
    split
    · exact Checked.isTold_ok _
    · exact Checked.isTold_refuse _
  | _ => exact Checked.isTold_refuse _

theorem isTold_checkPath (datum : Datum) : (checkPath datum).IsTold := by
  cases datum with
  | null => exact Checked.isTold_ok _
  | text text => exact Checked.isTold_ok _
  | _ => exact Checked.isTold_refuse _

theorem isTold_checkEntries (entries : List (Text × Datum)) (known : Table Text) :
    (checkEntries entries known).IsTold := by
  induction entries generalizing known with
  | nil => exact Checked.isTold_ok _
  | cons entry rest ih =>
    obtain ⟨key, datum⟩ := entry
    have told := (isTold_checkText datum).under key
    rw [checkEntries]
    split
    · exact ih _
    · rename_i issues refused
      rw [refused] at told
      simp_all [Checked.IsTold]

theorem isTold_checkTable (datum : Datum) : (checkTable datum).IsTold := by
  cases datum with
  | table entries => exact isTold_checkEntries entries {}
  | _ => exact Checked.isTold_refuse _

theorem isTold_field {α : Type} (layer : Layer) (key : Text) (default : α)
    {check : Datum → Checked α} (told : ∀ datum, (check datum).IsTold) :
    (field layer key default check).IsTold := by
  unfold field
  split
  · exact (told _).under key
  · exact Checked.isTold_ok _

theorem isTold_checkModules (datum : Datum) : (checkModules datum).IsTold := by
  cases datum with
  | table entries =>
    have baseUrl := isTold_field entries Key.baseUrl [] isTold_checkText
    have prefixes := isTold_field entries Key.prefixMap {} isTold_checkTable
    exact ((baseUrl.both prefixes).map _).withIssues _
  | _ => exact Checked.isTold_refuse _

theorem isTold_assign (config : Config) (target : Target) (datum : Datum) :
    (config.assign target datum).IsTold := by
  unfold Config.assign
  split
  · exact Checked.isTold_ok _
  · cases target with
    | config name =>
      dsimp only [Config.assignField]
      split_ifs
      · exact ((isTold_checkLevel datum).under name).map _
      · exact ((isTold_checkPath datum).under name).map _
      · exact ((isTold_checkModules datum).under name).map _
      · simp [Checked.IsTold]
    | modules name =>
      dsimp only [Config.assignModules]
      split_ifs
      · exact ((isTold_checkText datum).under name).map _
      · exact ((isTold_checkTable datum).under name).map _
      · simp [Checked.IsTold]

/-- A single entry that is no text is enough for a refusal. -/
theorem exists_checkEntries_iff (entries : List (Text × Datum)) (known : Table Text) :
    (∃ table, checkEntries entries known = .ok table) ↔
      ∀ entry ∈ entries, ∃ text, entry.2 = .text text := by
  induction entries generalizing known with
  | nil => simp [checkEntries]
  | cons entry rest ih =>
    obtain ⟨key, datum⟩ := entry
    rw [List.forall_mem_cons, checkEntries]
    cases datum with
    | text text => simpa [checkText, Checked.under] using ih _
    | _ => simp [checkText, refuse, Checked.under]

theorem exists_checkTable_iff (datum : Datum) :
    (∃ table, checkTable datum = .ok table) ↔
      ∃ entries, datum = .table entries ∧ ∀ entry ∈ entries, ∃ text, entry.2 = .text text := by
  cases datum with
  | table entries => simpa [checkTable] using exists_checkEntries_iff entries {}
  | _ => simp [checkTable, refuse]

/-- A prefix map is assigned if and only if it is a table of texts. -/
theorem exists_assign_prefixMap_iff (config : Config) (datum : Datum) :
    (∃ next, config.assign (.modules Key.prefixMap) datum = .ok next) ↔
      ∃ entries, datum = .table entries ∧ ∀ entry ∈ entries, ∃ text, entry.2 = .text text := by
  have assigned : config.assign (.modules Key.prefixMap) datum =
      ((checkTable datum).under Key.prefixMap).map fun prefixes =>
        { config with modules := { config.modules with prefixes } } := rfl
  rw [assigned, ← exists_checkTable_iff]
  cases checkTable datum <;> simp [Checked.under, Except.map]

/-- The name of a level is accepted as that level. -/
theorem resolve_name (level : Level) : Level.resolve level.name = .ok level := by
  cases level <;> rfl

namespace Config

/-- Settings that a run can work with: the level is known by its name, the base and the names and
values of the prefix map have no margins, and every module has one directory. -/
structure IsValid (config : Config) : Prop where
  level : config.logLevel.name ∈ Level.all.map Level.name ∧
    Level.resolve config.logLevel.name = .ok config.logLevel
  modules : AreTidy config.modules

theorem isValid_of_areTidy {config : Config} (tidy : AreTidy config.modules) : config.IsValid :=
  ⟨⟨List.mem_map_of_mem (Level.mem_all _), resolve_name _⟩, tidy⟩

/-- An accepted assignment keeps settings valid. -/
theorem IsValid.assign {config next : Config} (valid : config.IsValid) {target : Target}
    {datum : Datum} (accepted : config.assign target datum = .ok next) : next.IsValid := by
  refine isValid_of_areTidy ?_
  unfold Config.assign at accepted
  split at accepted
  · cases accepted
    exact valid.modules
  cases target with
  | config name =>
    dsimp only [assignField] at accepted
    split_ifs at accepted
    · obtain ⟨logLevel, -, rfl⟩ := Checked.map_eq_ok_iff.mp accepted
      exact valid.modules
    · obtain ⟨logFile, -, rfl⟩ := Checked.map_eq_ok_iff.mp accepted
      exact valid.modules
    · obtain ⟨modules, checked, rfl⟩ := Checked.map_eq_ok_iff.mp accepted
      exact checkModules_eq_ok (Checked.under_eq_ok_iff.mp checked)
  | modules name =>
    dsimp only [assignModules] at accepted
    split_ifs at accepted
    · obtain ⟨baseUrl, checked, rfl⟩ := Checked.map_eq_ok_iff.mp accepted
      exact ⟨checkText_eq_ok (Checked.under_eq_ok_iff.mp checked), valid.modules.prefixes⟩
    · obtain ⟨prefixes, checked, rfl⟩ := Checked.map_eq_ok_iff.mp accepted
      exact ⟨valid.modules.baseUrl, checkTable_eq_ok (Checked.under_eq_ok_iff.mp checked)⟩

/-- What an assignment makes of a configuration: the next one, or the same one with the issues of
the datum. -/
inductive Outcome (config : Config) (target : Target) (datum : Datum) : Config × List Issue → Prop
  | accepted {next : Config} (taken : config.assign target datum = .ok next) :
      Outcome config target datum (next, [])
  | refused {issues : List Issue} (rejected : config.assign target datum = .error issues)
      (told : issues ≠ []) : Outcome config target datum (config, issues)

theorem assignAll_cons (config : Config) (target : Target) (datum : Datum)
    (rest : List (Target × Datum)) :
    ∃ state, config.assignAll ((target, datum) :: rest) = state :: state.1.assignAll rest ∧
      config.Outcome target datum state := by
  rw [assignAll]
  cases taken : config.assign target datum with
  | ok next => exact ⟨(next, []), rfl, .accepted taken⟩
  | error issues =>
    refine ⟨(config, issues), rfl, .refused taken fun none => ?_⟩
    exact isTold_assign config target datum (none ▸ taken)

theorem IsValid.outcome {config : Config} (valid : config.IsValid) {target : Target}
    {datum : Datum} {state : Config × List Issue} (outcome : config.Outcome target datum state) :
    state.1.IsValid := by
  cases outcome with
  | accepted taken => exact valid.assign taken
  | refused => exact valid

theorem IsValid.assignAll {config : Config} (valid : config.IsValid)
    (assignments : List (Target × Datum)) :
    ∀ state ∈ config.assignAll assignments, state.1.IsValid := by
  induction assignments generalizing config with
  | nil => simp [Config.assignAll]
  | cons assignment rest ih =>
    obtain ⟨state, run, outcome⟩ := config.assignAll_cons assignment.1 assignment.2 rest
    have next := valid.outcome outcome
    rw [run, List.forall_mem_cons]
    exact ⟨next, ih next⟩

/-- Each state is the outcome of its assignment in the state before. -/
theorem exists_outcome (config : Config) {assignments : List (Target × Datum)} {index : Nat}
    {target : Target} {datum : Datum} (issues : List Issue)
    (assigned : assignments[index]? = some (target, datum)) :
    ∃ before after, ((config, issues) :: config.assignAll assignments)[index]? = some before ∧
      (config.assignAll assignments)[index]? = some after ∧
        before.1.Outcome target datum after := by
  induction assignments generalizing config issues index with
  | nil => simp at assigned
  | cons assignment rest ih =>
    obtain ⟨state, run, outcome⟩ := config.assignAll_cons assignment.1 assignment.2 rest
    rw [run]
    cases index with
    | zero =>
      obtain rfl : assignment = (target, datum) := by simpa using assigned
      exact ⟨(config, issues), state, rfl, rfl, outcome⟩
    | succ index =>
      obtain ⟨before, after, one, next, taken⟩ :=
        ih state.1 state.2 (by simpa using assigned)
      exact ⟨before, after, by simpa using one, by simpa using next, taken⟩

/-- A sequence of assignments to an accepted configuration goes through valid states, one for each
assignment: the next one where it is accepted, and the same one where it is refused. A prefix map
is refused as a whole as soon as one of its entries is no text. -/
theorem assignAll_valid {defaults : Layer} {layers : List Layer} {config : Config}
    (accepted : load defaults layers = .ok config) (assignments : List (Target × Datum)) :
    (∀ state ∈ (config, []) :: config.assignAll assignments, state.1.IsValid) ∧
      (config.assignAll assignments).length = assignments.length ∧
      ∀ (index : Nat) (target : Target) (datum : Datum),
        assignments[index]? = some (target, datum) →
        ∃ before after, ((config, []) :: config.assignAll assignments)[index]? = some before ∧
          (config.assignAll assignments)[index]? = some after ∧
          before.1.Outcome target datum after ∧
          (target = .modules Key.prefixMap → (after.2 = [] ↔
            ∃ entries, datum = .table entries ∧
              ∀ entry ∈ entries, ∃ text, entry.2 = .text text)) := by
  have valid := isValid_of_areTidy (load_eq_ok accepted)
  refine ⟨List.forall_mem_cons.mpr ⟨valid, valid.assignAll assignments⟩, ?length, ?outcomes⟩
  case length =>
    clear accepted valid
    induction assignments generalizing config with
    | nil => rfl
    | cons assignment rest ih =>
      obtain ⟨state, run, -⟩ := config.assignAll_cons assignment.1 assignment.2 rest
      rw [run, List.length_cons, List.length_cons, ih]
  case outcomes =>
    intro index target datum assigned
    obtain ⟨before, after, one, next, outcome⟩ := config.exists_outcome [] assigned
    refine ⟨before, after, one, next, outcome, ?_⟩
    rintro rfl
    rw [← exists_assign_prefixMap_iff before.1 datum]
    cases outcome with
    | accepted taken => simp [taken]
    | refused rejected told => simp [rejected, told]

/-- A prefix map with a wrong entry after a good one, and then the good one alone. -/
def attempts : List (Target × Datum) :=
  [(.modules Key.prefixMap, .table [(" a ".toList, .text "x ".toList), ("b".toList, .null)]),
    (.modules Key.prefixMap, .table [(" a ".toList, .text "x ".toList)])]

/-- The first of `attempts` changes nothing, although its first entry is good. -/
theorem assignAll_valid_attempts :
    load [] [] = .ok {} ∧ attempts[0]? = some (.modules Key.prefixMap,
        .table [(" a ".toList, .text "x ".toList), ("b".toList, .null)]) ∧
      ∃ after, (assignAll {} attempts)[0]? = some after ∧ after.2 ≠ [] ∧
        after.1 = ({} : Config) ∧
        ∀ state ∈ (({} : Config), []) :: assignAll {} attempts, state.1.IsValid := by
  have accepted : load [] [] = .ok {} := rfl
  obtain ⟨valid, -, outcomes⟩ := assignAll_valid accepted attempts
  obtain ⟨before, after, one, next, outcome, map⟩ := outcomes 0 _ _ rfl
  obtain rfl : ({}, []) = before := Option.some.inj one
  have refused : after.2 ≠ [] := by
    rw [ne_eq, map rfl]
    rintro ⟨entries, same, texts⟩
    obtain rfl := Datum.table.inj same
    simpa using texts ("b".toList, .null) (by simp)
  refine ⟨accepted, rfl, after, next, refused, ?_, valid⟩
  cases outcome with
  | accepted taken => exact absurd rfl refused
  | refused => rfl

end Config

end CommentDocs.Settings
