import CommentDocs.Proofs.Settings.Assignments
import CommentDocs.Proofs.Settings.Layering

/-!
# The report on wrong settings

What may be wrong with a table of settings is listed here place by place, without regard to how it
is checked. Loading fails if and only if one of these things is wrong, and then the report names
each of them once. Of two places the one comes first whose key comes first where they part: declared
keys in the order of their declaration, then the other keys as the merged table has them.
-/

namespace CommentDocs.Settings

open Text Datum

/-- What is wrong with a table of module settings. -/
inductive ModuleOffence (fields : Layer) : Issue → Prop
  | unknown {key : Text} (set : key ∈ fields.map (·.1))
      (undeclared : key ∉ [Key.baseUrl, Key.prefixMap]) : ModuleOffence fields ⟨[key], .unknownKey⟩
  | baseUrl {datum : Datum} (set : Table.find? Key.baseUrl fields = some datum)
      (noText : ∀ text, datum ≠ .text text) : ModuleOffence fields ⟨[Key.baseUrl], .notText⟩
  | prefixMap {datum : Datum} (set : Table.find? Key.prefixMap fields = some datum)
      (noTable : ∀ entries, datum ≠ .table entries) :
      ModuleOffence fields ⟨[Key.prefixMap], .notTable⟩
  | directory {entries : Layer} {name : Text} {datum : Datum}
      (set : Table.find? Key.prefixMap fields = some (.table entries))
      (entry : (name, datum) ∈ entries)
      (noText : ∀ text, datum ≠ .text text) :
      ModuleOffence fields ⟨[Key.prefixMap, name], .notText⟩

/-- What is wrong with a table of settings. -/
inductive Offence (settings : Layer) : Issue → Prop
  | unknown {key : Text} (set : key ∈ settings.map (·.1))
      (undeclared : key ∉ [Key.logLevel, Key.logFile, Key.modules]) :
      Offence settings ⟨[key], .unknownKey⟩
  | logLevel {datum : Datum} (set : Table.find? Key.logLevel settings = some datum)
      (noText : ∀ text, datum ≠ .text text) : Offence settings ⟨[Key.logLevel], .notText⟩
  | levelName {text : Text} (set : Table.find? Key.logLevel settings = some (.text text))
      (unnamed : ∀ level : Level, level.name ≠ (stripped text).map Level.capital) :
      Offence settings ⟨[Key.logLevel], .unknownLevel (stripped text)⟩
  | logFile {datum : Datum} (set : Table.find? Key.logFile settings = some datum)
      (noNull : datum ≠ .null) (noText : ∀ text, datum ≠ .text text) :
      Offence settings ⟨[Key.logFile], .notPath⟩
  | modules {datum : Datum} (set : Table.find? Key.modules settings = some datum)
      (noTable : ∀ entries, datum ≠ .table entries) : Offence settings ⟨[Key.modules], .notModules⟩
  | within {fields : Layer} {issue : Issue}
      (set : Table.find? Key.modules settings = some (.table fields))
      (offence : ModuleOffence fields issue) : Offence settings (issue.under Key.modules)

namespace Checked

variable {α β : Type}

@[simp] theorem issues_map (f : α → β) (outcome : Checked α) :
    issues (Except.map f outcome : Checked β) = outcome.issues := by
  cases outcome <;> rfl

@[simp] theorem issues_under (key : Text) (outcome : Checked α) :
    (outcome.under key).issues = outcome.issues.map (Issue.under key) := by
  cases outcome <;> rfl

@[simp] theorem issues_both (first : Checked α) (second : Checked β) :
    (first.both second).issues = first.issues ++ second.issues := by
  cases first <;> cases second <;> simp [both, issues]

@[simp] theorem issues_withIssues (outcome : Checked α) (further : List Issue) :
    (outcome.withIssues further).issues = outcome.issues ++ further := by
  cases outcome <;> cases further <;> simp [withIssues, issues]

@[simp] theorem issues_refuse (cause : Cause) : (refuse cause : Checked α).issues = [⟨[], cause⟩] :=
  rfl

/-- An outcome is a refusal if and only if there are issues to tell. -/
theorem IsTold.exists_error_iff {outcome : Checked α} (told : outcome.IsTold) :
    (∃ issues, outcome = .error issues) ↔ ∃ issue, issue ∈ outcome.issues := by
  cases outcome with
  | ok value => simp [issues]
  | error issues =>
    have nonempty : issues ≠ [] := fun none => told (none ▸ rfl)
    simpa [Checked.issues] using List.exists_mem_of_ne_nil issues nonempty

end Checked

/-- The issues of one field of a table, seen from the field. -/
def fieldIssues {α : Type} (layer : Layer) (key : Text) (check : Datum → Checked α) : List Issue :=
  match Table.find? key layer with
  | some datum => (check datum).issues
  | none => []

theorem mem_fieldIssues {α : Type} {layer : Layer} {key : Text} {check : Datum → Checked α}
    {issue : Issue} : issue ∈ fieldIssues layer key check ↔
      ∃ datum, Table.find? key layer = some datum ∧ issue ∈ (check datum).issues := by
  unfold fieldIssues
  cases Table.find? key layer <;> simp

theorem issues_field {α : Type} (layer : Layer) (key : Text) (default : α)
    (check : Datum → Checked α) :
    (field layer key default check).issues =
      (fieldIssues layer key check).map (Issue.under key) := by
  unfold field fieldIssues
  cases Table.find? key layer with
  | none => rfl
  | some datum => exact Checked.issues_under key (check datum)

theorem mem_issues_checkText {datum : Datum} {issue : Issue} :
    issue ∈ (checkText datum).issues ↔ (∀ text, datum ≠ .text text) ∧ issue = ⟨[], .notText⟩ := by
  cases datum <;> simp [checkText, Checked.issues, refuse]

theorem mem_issues_checkLevel {datum : Datum} {issue : Issue} :
    issue ∈ (checkLevel datum).issues ↔
      (∀ text, datum ≠ .text text) ∧ issue = ⟨[], .notText⟩ ∨
        ∃ text, datum = .text text ∧
          (∀ level : Level, level.name ≠ (stripped text).map Level.capital) ∧
            issue = ⟨[], .unknownLevel (stripped text)⟩ := by
  cases datum with
  | text text =>
    have unnamed : Level.ofWord? (stripped text) = none ↔
        ∀ level : Level, level.name ≠ (stripped text).map Level.capital := by
      simp [Level.ofWord?, Level.mem_all]
    cases named : Level.ofWord? (stripped text) with
    | none => simp [checkLevel, named, unnamed.mp named]
    | some level =>
      have known : ¬∀ level : Level, level.name ≠ (stripped text).map Level.capital := by
        simp [← unnamed, named]
      simp [checkLevel, named, Checked.issues, known]
  | _ => simp [checkLevel]

theorem mem_issues_checkPath {datum : Datum} {issue : Issue} :
    issue ∈ (checkPath datum).issues ↔
      datum ≠ .null ∧ (∀ text, datum ≠ .text text) ∧ issue = ⟨[], .notPath⟩ := by
  cases datum <;> simp [checkPath, Checked.issues, refuse]

theorem issues_checkEntries (entries : List (Text × Datum)) (known : Table Text) :
    (checkEntries entries known).issues =
      entries.flatMap fun entry => (checkText entry.2).issues.map (Issue.under entry.1) := by
  induction entries generalizing known with
  | nil => rfl
  | cons entry rest ih =>
    obtain ⟨key, datum⟩ := entry
    rw [checkEntries, List.flatMap_cons, ← Checked.issues_under]
    cases (checkText datum).under key with
    | ok value => exact ih (known.put (stripped key) value)
    | error issues =>
      change issues ++ (checkEntries rest known).issues = issues ++ _
      rw [ih known]

def undeclaredKeys (layer : Layer) (declared : List Text) : List Text :=
  (layer.map (·.1)).filter fun key => key ∉ declared

theorem undeclared_eq (layer : Layer) (declared : List Text) :
    undeclared layer declared =
      (undeclaredKeys layer declared).map fun key => ⟨[key], .unknownKey⟩ := by
  simp only [undeclared, undeclaredKeys, List.filter_map, List.map_map]
  congr 1
  exact List.filter_congr fun entry _ => by simp

theorem issues_checkModuleFields (fields : Layer) :
    (checkModuleFields fields).issues =
      (fieldIssues fields Key.baseUrl checkText).map (Issue.under Key.baseUrl) ++
        (fieldIssues fields Key.prefixMap checkTable).map (Issue.under Key.prefixMap) ++
        undeclared fields [Key.baseUrl, Key.prefixMap] := by
  simp [checkModuleFields, issues_field]

theorem issues_check (settings : Layer) :
    (check settings).issues =
      (fieldIssues settings Key.logLevel checkLevel).map (Issue.under Key.logLevel) ++
        ((fieldIssues settings Key.logFile checkPath).map (Issue.under Key.logFile) ++
          (fieldIssues settings Key.modules checkModules).map (Issue.under Key.modules)) ++
        undeclared settings [Key.logLevel, Key.logFile, Key.modules] := by
  simp [check, issues_field]

theorem mem_issues_checkTable {datum : Datum} {issue : Issue} :
    issue ∈ (checkTable datum).issues ↔
      (∀ entries, datum ≠ .table entries) ∧ issue = ⟨[], .notTable⟩ ∨
        ∃ entries, datum = .table entries ∧ ∃ entry ∈ entries,
          (∀ text, entry.2 ≠ .text text) ∧ issue = ⟨[entry.1], .notText⟩ := by
  cases datum with
  | table entries =>
    simp only [checkTable, issues_checkEntries, List.mem_flatMap, List.mem_map,
      mem_issues_checkText]
    simp [Issue.under, eq_comm]
  | _ => simp [checkTable]

theorem mem_undeclared {layer : Layer} {declared : List Text} {issue : Issue} :
    issue ∈ undeclared layer declared ↔
      ∃ key, key ∈ layer.map (·.1) ∧ key ∉ declared ∧ issue = ⟨[key], .unknownKey⟩ := by
  rw [undeclared_eq, List.mem_map]
  refine exists_congr fun key => ?_
  rw [undeclaredKeys, List.mem_filter, decide_eq_true_eq, and_assoc, eq_comm]

theorem mem_issues_checkModuleFields {fields : Layer} {issue : Issue} :
    issue ∈ (checkModuleFields fields).issues ↔ ModuleOffence fields issue := by
  simp only [issues_checkModuleFields, List.mem_append, List.mem_map, mem_fieldIssues,
    mem_undeclared, mem_issues_checkText, mem_issues_checkTable]
  constructor
  · rintro ((⟨_, ⟨datum, set, noText, rfl⟩, rfl⟩ |
      ⟨_, ⟨datum, set, ⟨noTable, rfl⟩ | ⟨entries, rfl, entry, mem, noText, rfl⟩⟩, rfl⟩) |
      ⟨key, set, undeclared, rfl⟩)
    · exact .baseUrl set noText
    · exact .prefixMap set noTable
    · exact .directory set mem noText
    · exact .unknown (List.mem_map.mpr set) undeclared
  · intro offence
    cases offence with
    | unknown set undeclared => exact .inr ⟨_, List.mem_map.mp set, undeclared, rfl⟩
    | baseUrl set noText => exact .inl (.inl ⟨_, ⟨_, set, noText, rfl⟩, rfl⟩)
    | prefixMap set noTable => exact .inl (.inr ⟨_, ⟨_, set, .inl ⟨noTable, rfl⟩⟩, rfl⟩)
    | directory set entry noText =>
      exact .inl (.inr ⟨_, ⟨_, set, .inr ⟨_, rfl, _, entry, noText, rfl⟩⟩, rfl⟩)

theorem mem_issues_checkModules {datum : Datum} {issue : Issue} :
    issue ∈ (checkModules datum).issues ↔
      (∀ entries, datum ≠ .table entries) ∧ issue = ⟨[], .notModules⟩ ∨
        ∃ fields, datum = .table fields ∧ ModuleOffence fields issue := by
  cases datum with
  | table fields =>
    rw [checkModules, mem_issues_checkModuleFields]
    simp
  | _ => simp [checkModules]

theorem mem_issues_check {settings : Layer} {issue : Issue} :
    issue ∈ (check settings).issues ↔ Offence settings issue := by
  simp only [issues_check, List.mem_append, List.mem_map, mem_fieldIssues, mem_undeclared,
    mem_issues_checkLevel, mem_issues_checkPath, mem_issues_checkModules]
  constructor
  · rintro ((⟨_, ⟨datum, set, ⟨noText, rfl⟩ | ⟨text, rfl, unnamed, rfl⟩⟩, rfl⟩ |
      ⟨_, ⟨datum, set, noNull, noText, rfl⟩, rfl⟩ |
      ⟨issue, ⟨datum, set, ⟨noTable, rfl⟩ | ⟨fields, rfl, offence⟩⟩, rfl⟩) |
      ⟨key, set, undeclared, rfl⟩)
    · exact .logLevel set noText
    · exact .levelName set unnamed
    · exact .logFile set noNull noText
    · exact .modules set noTable
    · exact .within set offence
    · exact .unknown (List.mem_map.mpr set) undeclared
  · intro offence
    cases offence with
    | unknown set undeclared => exact .inr ⟨_, List.mem_map.mp set, undeclared, rfl⟩
    | logLevel set noText => exact .inl (.inl ⟨_, ⟨_, set, .inl ⟨noText, rfl⟩⟩, rfl⟩)
    | levelName set unnamed =>
      exact .inl (.inl ⟨_, ⟨_, set, .inr ⟨_, rfl, unnamed, rfl⟩⟩, rfl⟩)
    | logFile set noNull noText => exact .inl (.inr (.inl ⟨_, ⟨_, set, noNull, noText, rfl⟩, rfl⟩))
    | modules set noTable => exact .inl (.inr (.inr ⟨_, ⟨_, set, .inl ⟨noTable, rfl⟩⟩, rfl⟩))
    | within set offence => exact .inl (.inr (.inr ⟨_, ⟨_, set, .inr ⟨_, rfl, offence⟩⟩, rfl⟩))

def declaredAt (path : List Text) : List Text :=
  if path = [] then [Key.logLevel, Key.logFile, Key.modules]
  else if path = [Key.modules] then [Key.baseUrl, Key.prefixMap]
  else []

/-- The keys of the table at a path in the order in which the report goes through them. -/
def reportOrder (settings : Layer) (path : List Text) : List Text :=
  declaredAt path ++ (keysAt settings path).filter fun key => key ∉ declaredAt path

/-- Of two places the one comes first whose key comes first in the table in which they part. -/
def Before (settings : Layer) (first second : List Text) : Prop :=
  ∃ path key other rest others, first = path ++ key :: rest ∧ second = path ++ other :: others ∧
    [key, other].Sublist (reportOrder settings path)

theorem nodup_declaredAt (path : List Text) : (declaredAt path).Nodup := by
  unfold declaredAt
  split_ifs <;> decide

theorem nodup_reportOrder {settings : Layer} (distinct : areDistinct settings = true)
    (path : List Text) : (reportOrder settings path).Nodup := by
  refine List.nodup_append.mpr ⟨nodup_declaredAt path, (nodup_keysAt distinct path).filter _, ?_⟩
  rintro key declared _ mem rfl
  simpa [declared] using (List.mem_filter.mp mem).2

theorem Before.ne {settings : Layer} (distinct : areDistinct settings = true)
    {first second : List Text} (before : Before settings first second) : first ≠ second := by
  obtain ⟨path, key, other, rest, others, rfl, rfl, ordered⟩ := before
  intro same
  obtain ⟨rfl, -⟩ := List.cons.inj (List.append_cancel_left same)
  simpa using (nodup_reportOrder distinct path).sublist ordered

/-- Issues that are grouped by their keys stand in the order of the report if the keys do, and if
the issues of each group do. -/
theorem pairwise_before_groups (settings : Layer) (path : List Text)
    (groups : List (Text × List Issue))
    (ordered : (groups.map (·.1)).Sublist (reportOrder settings path))
    (inside : ∀ group ∈ groups, group.2.Pairwise fun first second =>
      Before settings (path ++ group.1 :: first.location) (path ++ group.1 :: second.location)) :
    (groups.flatMap fun group => group.2.map (Issue.under group.1)).Pairwise fun first second =>
      Before settings (path ++ first.location) (path ++ second.location) := by
  rw [List.pairwise_flatMap]
  refine ⟨fun group mem => List.pairwise_map.mpr (inside group mem), ?_⟩
  rw [List.pairwise_iff_forall_sublist]
  intro group later pair first mem second mem'
  obtain ⟨issue, -, rfl⟩ := List.mem_map.mp mem
  obtain ⟨issue', -, rfl⟩ := List.mem_map.mp mem'
  exact ⟨path, group.1, later.1, issue.location, issue'.location, rfl, rfl,
    (pair.map Prod.fst).trans ordered⟩

/-- The issues of a table stand in the order of the report if those of each declared field do. -/
theorem pairwise_before_table (settings layer : Layer) (path : List Text)
    (fields : List (Text × List Issue)) (here : keysAt settings path = layer.map (·.1))
    (declared : declaredAt path = fields.map (·.1))
    (inside : ∀ field ∈ fields, field.2.Pairwise fun first second =>
      Before settings (path ++ field.1 :: first.location) (path ++ field.1 :: second.location)) :
    ((fields.flatMap fun field => field.2.map (Issue.under field.1)) ++
      undeclared layer (fields.map (·.1))).Pairwise fun first second =>
        Before settings (path ++ first.location) (path ++ second.location) := by
  have grouped : undeclared layer (fields.map (·.1)) =
      ((undeclaredKeys layer (fields.map (·.1))).map fun key =>
        (key, [(⟨[], .unknownKey⟩ : Issue)])).flatMap fun group =>
          group.2.map (Issue.under group.1) := by
    rw [undeclared_eq, List.flatMap_map]
    simp [Issue.under, List.map_eq_flatMap]
  rw [grouped, ← List.flatMap_append]
  refine pairwise_before_groups settings path _ ?ordered
    (List.forall_mem_append.mpr ⟨inside, ?others⟩)
  case ordered =>
    rw [reportOrder, here, declared, List.map_append, List.map_map]
    simp [undeclaredKeys, Function.comp_def]
  case others =>
    intro group mem
    obtain ⟨key, -, rfl⟩ := List.mem_map.mp mem
    exact List.pairwise_singleton _ _

section Single

variable (R : Issue → Issue → Prop) (datum : Datum)

theorem pairwise_issues_checkText : (checkText datum).issues.Pairwise R := by
  cases datum <;> simp [checkText, Checked.issues, refuse]

theorem pairwise_issues_checkLevel : (checkLevel datum).issues.Pairwise R := by
  cases datum with
  | text text =>
    rw [checkLevel]
    cases Level.ofWord? (stripped text) <;> simp [Checked.issues, refuse]
  | _ => simp [checkLevel]

theorem pairwise_issues_checkPath : (checkPath datum).issues.Pairwise R := by
  cases datum <;> simp [checkPath, Checked.issues, refuse]

end Single

theorem pairwise_fieldIssues {α : Type} {layer : Layer} {key : Text} {check : Datum → Checked α}
    {R : Issue → Issue → Prop} (each : ∀ datum, Table.find? key layer = some datum →
      (check datum).issues.Pairwise R) : (fieldIssues layer key check).Pairwise R := by
  unfold fieldIssues
  split
  · exact each _ ‹_›
  · exact List.Pairwise.nil

theorem pairwise_issues_checkTable {settings fields : Layer} {datum : Datum}
    (inModules : Table.find? Key.modules settings = some (.table fields))
    (inPrefixes : Table.find? Key.prefixMap fields = some datum) :
    (checkTable datum).issues.Pairwise fun first second =>
      Before settings ([Key.modules, Key.prefixMap] ++ first.location)
        ([Key.modules, Key.prefixMap] ++ second.location) := by
  cases datum with
  | table entries =>
    have here : keysAt settings [Key.modules, Key.prefixMap] = entries.map (·.1) := by
      simp [keysAt, valueAt?, reach?, inModules, inPrefixes]
    have free : declaredAt [Key.modules, Key.prefixMap] = [] := by decide
    have groups := pairwise_before_groups settings [Key.modules, Key.prefixMap]
      (entries.map fun entry => (entry.1, (checkText entry.2).issues))
    rw [List.flatMap_map] at groups
    rw [checkTable, issues_checkEntries]
    refine groups ?_ (List.forall_mem_map.mpr fun entry _ => pairwise_issues_checkText _ entry.2)
    rw [reportOrder, here, free]
    simp [Function.comp_def]
  | _ => simp [checkTable]

theorem pairwise_issues_checkModules {settings : Layer} {datum : Datum}
    (inModules : Table.find? Key.modules settings = some datum) :
    (checkModules datum).issues.Pairwise fun first second =>
      Before settings ([Key.modules] ++ first.location) ([Key.modules] ++ second.location) := by
  cases datum with
  | table fields =>
    have here : keysAt settings [Key.modules] = fields.map (·.1) := by
      simp [keysAt, valueAt?, reach?, inModules]
    have table := pairwise_before_table settings fields [Key.modules]
      [(Key.baseUrl, fieldIssues fields Key.baseUrl checkText),
        (Key.prefixMap, fieldIssues fields Key.prefixMap checkTable)] here rfl
    rw [checkModules, issues_checkModuleFields]
    simp only [List.flatMap_cons, List.flatMap_nil, List.append_nil] at table
    refine table ?_
    simp only [List.forall_mem_cons]
    refine ⟨?_, ?_, fun _ mem => absurd mem List.not_mem_nil⟩
    · exact pairwise_fieldIssues fun datum _ => pairwise_issues_checkText _ datum
    · exact pairwise_fieldIssues fun datum found => pairwise_issues_checkTable inModules found
  | _ => simp [checkModules]

theorem pairwise_issues_check (settings : Layer) :
    (check settings).issues.Pairwise fun first second =>
      Before settings first.location second.location := by
  have table := pairwise_before_table settings settings []
    [(Key.logLevel, fieldIssues settings Key.logLevel checkLevel),
      (Key.logFile, fieldIssues settings Key.logFile checkPath),
      (Key.modules, fieldIssues settings Key.modules checkModules)] rfl rfl
  rw [issues_check]
  simp only [List.flatMap_cons, List.flatMap_nil, List.append_nil] at table
  refine table ?_
  simp only [List.forall_mem_cons]
  refine ⟨?_, ?_, ?_, fun _ mem => absurd mem List.not_mem_nil⟩
  · exact pairwise_fieldIssues fun datum _ => pairwise_issues_checkLevel _ datum
  · exact pairwise_fieldIssues fun datum _ => pairwise_issues_checkPath _ datum
  · exact pairwise_fieldIssues fun datum found => pairwise_issues_checkModules found

theorem isTold_check (settings : Layer) : (check settings).IsTold := by
  have level := isTold_field settings Key.logLevel Level.warning isTold_checkLevel
  have file := isTold_field settings Key.logFile none isTold_checkPath
  have modules := isTold_field settings Key.modules {} isTold_checkModules
  exact ((level.both (file.both modules)).map _).withIssues _

/-- Loading fails if and only if something is wrong with the merged table, and then the report names
everything that is wrong, each place once and in the order of the report. -/
theorem load_reports {defaults : Layer} {layers : List Layer}
    (distinct : ∀ layer ∈ defaults :: layers, areDistinct layer = true) :
    ((∃ issues, load defaults layers = .error issues) ↔
        ∃ issue, Offence (merged defaults layers) issue) ∧
      ∀ issues, load defaults layers = .error issues →
        (∀ issue, issue ∈ issues ↔ Offence (merged defaults layers) issue) ∧
          (issues.map (·.location)).Nodup ∧
          (issues.map (·.location)).Pairwise (Before (merged defaults layers)) := by
  obtain ⟨below, above⟩ := List.forall_mem_cons.mp distinct
  have sound := areDistinct_merged above below
  refine ⟨?fails, ?named⟩
  case fails =>
    rw [load, (isTold_check _).exists_error_iff]
    simp only [mem_issues_check]
  case named =>
    intro issues failed
    obtain rfl : (check (merged defaults layers)).issues = issues := congrArg Checked.issues failed
    have ordered : ((check (merged defaults layers)).issues.map (·.location)).Pairwise
        (Before (merged defaults layers)) :=
      List.pairwise_map.mpr (pairwise_issues_check _)
    exact ⟨fun issue => mem_issues_check, ordered.imp fun before => before.ne sound, ordered⟩

/-- Two layers with faults at all levels; the upper one replaces the level of the lower one by
another wrong one, and both add to the same table. -/
theorem load_reports_nested :
    let lower : Layer :=
      [("colour".toList, .text "red".toList), (Key.logLevel, .integer 3),
        (Key.modules, .table [("extra".toList, .null),
          (Key.prefixMap, .table [("b".toList, .null), ("a".toList, .text [])])])]
    let upper : Layer :=
      [(Key.logLevel, .text " loud ".toList), (Key.logFile, .null),
        (Key.modules, .table [(Key.prefixMap, .table [("c".toList, .integer 1)]),
          (Key.baseUrl, .boolean true)]),
        ("alpha".toList, .null)]
    let issues : List Issue :=
      [⟨[Key.logLevel], .unknownLevel "loud".toList⟩, ⟨[Key.modules, Key.baseUrl], .notText⟩,
        ⟨[Key.modules, Key.prefixMap, "b".toList], .notText⟩,
        ⟨[Key.modules, Key.prefixMap, "c".toList], .notText⟩,
        ⟨[Key.modules, "extra".toList], .unknownKey⟩, ⟨["colour".toList], .unknownKey⟩,
        ⟨["alpha".toList], .unknownKey⟩]
    (∀ layer ∈ [lower, upper], areDistinct layer = true) ∧ load lower [upper] = .error issues ∧
      (∀ issue, issue ∈ issues ↔ Offence (merged lower [upper]) issue) ∧
      (issues.map (·.location)).Nodup ∧
      (issues.map (·.location)).Pairwise (Before (merged lower [upper])) := by
  intro lower upper issues
  have distinct : ∀ layer ∈ [lower, upper], areDistinct layer = true := by decide
  have failed : load lower [upper] = .error issues := by decide +kernel
  exact ⟨distinct, failed, (load_reports distinct).2 issues failed⟩

end CommentDocs.Settings
