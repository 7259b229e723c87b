import CommentDocs.Proofs.Settings.NormalForm
import CommentDocs.Proofs.Toml.Sections
import CommentDocs.Settings.Rendering
import Mathlib.Data.Char
import Mathlib.Data.List.Lex

/-!
# A settings file gives back its configuration

The text of a settings file is read line by line into one layer: the level, the log file if there
is one, and a table of module settings whose prefix map lists its names in code point order. An
accepted configuration is tidy, so its own layer is accepted without any change but that order.

The path of the log file is the one setting that may change: it is stripped and normalised again.
-/

namespace CommentDocs.Settings

open Text Toml

/-- Sorting by name leaves no name after a greater one. -/
theorem pairwise_mergeSort_names {α : Type} (entries : List (Text × α)) :
    (entries.mergeSort fun a b => !precedes b.1 a.1).Pairwise fun a b => a.1 ≤ b.1 := by
  have le_iff (a b : Text × α) : (!precedes b.1 a.1) = true ↔ a.1 ≤ b.1 := by
    rw [Bool.not_eq_true', ← Bool.not_eq_true, precedes_iff_lt, not_lt]
  have sorted : (entries.mergeSort fun a b => !precedes b.1 a.1).Pairwise fun a b =>
      (!precedes b.1 a.1) = true := by
    refine List.pairwise_mergeSort (fun a b c first second => ?_) (fun a b => ?_) entries
    · rw [le_iff] at first second ⊢
      exact first.trans second
    · rw [Bool.or_eq_true, le_iff, le_iff]
      exact le_total a.1 b.1
  exact sorted.imp (le_iff _ _).mp

theorem perm_sortedEntries (table : Table Text) : (sortedEntries table).Perm table.entries :=
  List.mergeSort_perm _ _

theorem nodup_sortedEntries {table : Table Text} (tidy : IsTidy table) :
    ((sortedEntries table).map (·.1)).Nodup :=
  ((perm_sortedEntries table).map _).nodup_iff.mpr tidy.distinct

/-- The names of a tidy table are listed in strictly ascending order. -/
theorem pairwise_sortedEntries {table : Table Text} (tidy : IsTidy table) :
    ((sortedEntries table).map (·.1)).Pairwise (· < ·) := by
  have ascending : ((sortedEntries table).map (·.1)).Pairwise (· ≤ ·) :=
    List.pairwise_map.mpr (pairwise_mergeSort_names table.entries)
  exact (ascending.and (nodup_sortedEntries tidy)).imp fun ⟨le, ne⟩ => lt_of_le_of_ne le ne

namespace Config

def layer (config : Config) : Layer :=
  textData config.plainSettings ++
    [(Key.modules, .table
      [(Key.baseUrl, .text config.modules.baseUrl),
        (Key.prefixMap, .table (textData (sortedEntries config.modules.prefixes)))])]

theorem names_layer (config : Config) :
    config.layer.map (·.1) = config.plainSettings.map (·.1) ++ [Key.modules] := by
  simp [layer, textData]

theorem nodup_names_layer (config : Config) : (config.layer.map (·.1)).Nodup := by
  have few : (config.plainSettings.map (·.1)).Sublist [Key.logLevel, Key.logFile] := by
    unfold plainSettings
    cases config.logFile <;> simp
  rw [names_layer]
  exact (few.append (List.Sublist.refl [Key.modules])).nodup nodup_keys

end Config

open Toml.Document Toml.Draft

theorem entriesToData_append (first second : Entries) :
    entriesToData (first ++ second) = entriesToData first ++ entriesToData second := by
  induction first with
  | nil => rfl
  | cons entry rest ih => simp [entriesToData, ih]

theorem entriesToData_textValues (pairs : List (Text × Text)) :
    entriesToData (textValues pairs) = textData pairs := by
  induction pairs with
  | nil => rfl
  | cons pair rest ih => simpa [textValues, textData, entriesToData, toDatum] using ih

theorem reads_comments (document : Document) {texts : List Text}
    (printable : ∀ text ∈ texts, IsPrintable text) :
    Reads document (texts.flatMap commentLine) document := by
  induction texts with
  | nil => exact Reads.refl document
  | cons text texts ih =>
    rw [List.flatMap_cons]
    exact (reads_comment document (printable text List.mem_cons_self)).append
      (ih fun other mem => printable other (List.mem_cons_of_mem _ mem))

/-- The lines of the settings at the top of a settings file. -/
theorem flatMap_plainSettings (config : Config) :
    (config.plainSettings.flatMap fun pair => pairLine pair.1 pair.2) =
      pairLine Key.logLevel config.logLevel.name ++
        (config.logFile.map (pairLine Key.logFile)).getD [] := by
  unfold Config.plainSettings
  cases config.logFile <;> simp

/-- The lines below the settings at the top add the table of module settings. -/
theorem reads_modules {before : Entries} (absent : Table.find? Key.modules before = none)
    (baseUrl : Text) {pairs : List (Text × Text)} (distinct : (pairs.map (·.1)).Nodup) :
    Reads ⟨before, [], []⟩
      (headerLine [Key.modules] ++ (pairLine Key.baseUrl baseUrl ++ (['\n'] ++
        (headerLine [Key.modules, Key.prefixMap] ++
          pairs.flatMap fun pair => pairLine pair.1 pair.2))))
      ⟨before ++ [(Key.modules, .table true
          (textValues [(Key.baseUrl, baseUrl)] ++
            [(Key.prefixMap, .table true (textValues pairs))]))],
        [Key.modules, Key.prefixMap], []⟩ := by
  have noPrefixes : Table.find? Key.prefixMap (textValues [(Key.baseUrl, baseUrl)]) = none := by
    rw [Table.find?_eq_none_iff, textValues]
    simp [show Key.prefixMap ≠ Key.baseUrl by decide]
  have modules : IsSection [Key.modules] fun old => before ++ [(Key.modules, .table true old)] :=
    isSection_root.below absent
  have prefixes : IsSection [Key.modules, Key.prefixMap] fun old =>
      before ++ [(Key.modules, .table true
        (textValues [(Key.baseUrl, baseUrl)] ++ [(Key.prefixMap, .table true old)]))] :=
    (isSection_root.below noPrefixes).below absent
  exact (reads_opening isSection_root absent []).append <|
    (reads_entry modules rfl baseUrl).append <| (reads_blank _).append <|
    (reads_opening modules noPrefixes [Key.modules]).append <| reads_entries prefixes distinct

/-- A settings file is read as the layer of its configuration. -/
theorem read_render_layer {config : Config} (tidy : IsTidy config.modules.prefixes) :
    Toml.read (render config) = .ok config.layer := by
  -- No key comes twice, so each pair is new and the header of the modules opens a new table.
  have names := config.nodup_names_layer
  rw [config.names_layer] at names
  have distinct : (config.plainSettings.map (·.1)).Nodup := (List.nodup_append.mp names).1
  have absent : Table.find? Key.modules (textValues config.plainSettings) = none :=
    Table.find?_eq_none_of_nodup (by rwa [names_textValues])
  have top : Reads {} (headline.flatMap commentLine ++ (['\n'] ++
      ((config.plainSettings.flatMap fun pair => pairLine pair.1 pair.2) ++ ['\n'])))
      ⟨textValues config.plainSettings, [], []⟩ :=
    (reads_comments {} (by decide)).append <| (reads_blank {}).append <|
      (reads_entries isSection_root (by simpa using distinct)).append (reads_blank _)
  have whole := top.append (reads_modules absent config.modules.baseUrl (nodup_sortedEntries tidy))
  simp only [List.append_assoc, flatMap_plainSettings] at whole
  simp only [render, List.append_assoc]
  rw [whole.read_eq]
  simp [entriesToData_append, entriesToData_textValues, entriesToData, toDatum, Config.layer,
    textData]

/-- Listing the entries of a tidy table by name keeps it tidy. -/
theorem isTidy_sortedEntries {table : Table Text} (tidy : IsTidy table) :
    IsTidy ⟨sortedEntries table⟩ :=
  ⟨fun entry mem => tidy.trimmed entry ((perm_sortedEntries table).mem_iff.mp mem),
    nodup_sortedEntries tidy⟩

/-- The layer of a settings file gives back the configuration; the path of the log file is stripped
and normalised once more. -/
theorem check_layer {config : Config} (tidy : AreTidy config.modules) :
    check config.layer = .ok
      { logLevel := config.logLevel
        logFile := config.logFile.map fun path => Path.normalize (stripped path)
        modules := ⟨config.modules.baseUrl, ⟨sortedEntries config.modules.prefixes⟩⟩ } := by
  -- The layer has the own values of the configuration whose modules are listed by name.
  let listed : Config :=
    { config with modules := ⟨config.modules.baseUrl, ⟨sortedEntries config.modules.prefixes⟩⟩ }
  have tidyListed : AreTidy listed.modules :=
    ⟨tidy.baseUrl, isTidy_sortedEntries tidy.prefixes⟩
  exact check_ownLayer tidyListed

/-- A settings file is read as a layer with exactly the level of its configuration, its log file if
it has one, its base, and the entries of its prefix map in ascending order of their names. As the
only layer it is accepted, with the same level, base and prefix map. -/
theorem render_reloads {defaults : Layer} {layers : List Layer} {config : Config}
    (accepted : load defaults layers = .ok config) :
    Toml.read (render config) = .ok config.layer ∧
      (sortedEntries config.modules.prefixes).Perm config.modules.prefixes.entries ∧
      ((sortedEntries config.modules.prefixes).map (·.1)).Pairwise (· < ·) ∧
      ∃ reloaded, load config.layer [] = .ok reloaded ∧ load [] [config.layer] = .ok reloaded ∧
        reloaded.logLevel = config.logLevel ∧
        reloaded.modules.baseUrl = config.modules.baseUrl ∧
        ∀ name, reloaded.modules.prefixes.get? name = config.modules.prefixes.get? name := by
  have tidy := load_eq_ok accepted
  have reload := check_layer tidy
  have alone : merged [] [config.layer] = config.layer :=
    overlay_of_distinct config.nodup_names_layer
  refine ⟨read_render_layer tidy.prefixes, perm_sortedEntries _,
    pairwise_sortedEntries tidy.prefixes, _, reload, ?_, rfl, rfl, fun name => ?_⟩
  · rw [load, alone]
    exact reload
  · exact Table.find?_of_perm (perm_sortedEntries _) (nodup_sortedEntries tidy.prefixes) name

/-- Quotes, a backslash, control characters and an empty name are among the texts; stripping makes
two names equal. -/
theorem render_reloads_escaped :
    let chosen : Layer :=
      [(Key.logLevel, .text " info ".toList), (Key.logFile, .text "./log \"1\"".toList),
        (Key.modules, .table
          [(Key.baseUrl, .text "\x01\\é\n/".toList),
            (Key.prefixMap, .table
              [("b".toList, .text "old".toList), (" \t".toList, .text "\"\x7f".toList),
                ("b ".toList, .text "".toList)])])]
    let config : Config :=
      { logLevel := .info
        logFile := some "log \"1\"".toList
        modules := ⟨"\x01\\é\n/".toList, ⟨[("b".toList, []), ([], "\"\x7f".toList)]⟩⟩ }
    load [] [chosen] = .ok config ∧
      Toml.read (render config) = .ok
        [(Key.logLevel, .text "INFO".toList), (Key.logFile, .text "log \"1\"".toList),
          (Key.modules, .table
            [(Key.baseUrl, .text "\x01\\é\n/".toList),
              (Key.prefixMap, .table
                [([], .text "\"\x7f".toList), ("b".toList, .text [])])])] := by
  intro chosen config
  have accepted : load [] [chosen] = .ok config := by decide +kernel
  have sorted :
      sortedEntries config.modules.prefixes = [([], "\"\x7f".toList), ("b".toList, [])] := by
    simp [config, sortedEntries, List.mergeSort, List.MergeSort.Internal.splitInTwo, precedes]
  refine ⟨accepted, (render_reloads accepted).1.trans ?_⟩
  rw [Config.layer, sorted]
  rfl

end CommentDocs.Settings
