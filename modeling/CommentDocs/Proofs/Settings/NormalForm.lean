import CommentDocs.Proofs.Settings.Validity
import CommentDocs.Proofs.Source.Normal

/-!
# A configuration as its own settings

The values of an accepted configuration are settings again. Loading them gives the configuration
back, level, base and prefix map as they are and in their order, with one exception: the path of the
log file was stripped before it was spelled normally, and the normal spelling may start or end with
a blank that stood inside before, as in `./ a`. Such a path is stripped once more.
-/

namespace CommentDocs.Settings

open Text

namespace Config

def plainSettings (config : Config) : List (Text × Text) :=
  (Key.logLevel, config.logLevel.name) :: (config.logFile.map (Key.logFile, ·)).toList

def ownLayer (config : Config) : Layer :=
  textData config.plainSettings ++
    [(Key.modules, .table
      [(Key.baseUrl, .text config.modules.baseUrl),
        (Key.prefixMap, .table (textData config.modules.prefixes.entries))])]

theorem nodup_keys : [Key.logLevel, Key.logFile, Key.modules].Nodup := by decide

end Config

theorem checkLevel_name (level : Level) : checkLevel (.text level.name) = .ok level := by
  have trimmed : stripped level.name = level.name := by cases level <;> decide
  rw [checkLevel, trimmed, Level.ofWord?_name]

/-- Tidy module settings are accepted as they are. -/
theorem checkModules_own {modules : ModuleMap} (tidy : AreTidy modules) :
    checkModules (.table [(Key.baseUrl, .text modules.baseUrl),
        (Key.prefixMap, .table (textData modules.prefixes.entries))]) = .ok modules := by
  have other : Key.baseUrl ≠ Key.prefixMap := by decide
  refine checkModuleFields_eq_ok_iff.mpr ⟨⟨?baseUrl, ?prefixes⟩, ?declared⟩
  case baseUrl =>
    refine field_eq_ok_iff.mpr (.inl ⟨_, ?_, checkText_text tidy.baseUrl⟩)
    simp [Table.find?]
  case prefixes =>
    refine field_eq_ok_iff.mpr
      (.inl ⟨_, ?_, checkTable_textData tidy.prefixes.trimmed tidy.prefixes.distinct⟩)
    simp [Table.find?, other]
  case declared => simp [undeclared]

/-- The own values of a tidy configuration are accepted; the path of the log file is stripped and
normalised once more. -/
theorem check_ownLayer {config : Config} (tidy : AreTidy config.modules) :
    check config.ownLayer = .ok
      { config with logFile := config.logFile.map fun path => Path.normalize (stripped path) } := by
  have keys := Config.nodup_keys
  simp only [List.nodup_cons, List.mem_cons, List.not_mem_nil, or_false, not_or] at keys
  obtain ⟨⟨levelFile, levelModules⟩, fileModules, _⟩ := keys
  refine check_eq_ok_iff.mpr ⟨⟨?logLevel, ?logFile, ?modules⟩, ?declared⟩
  case logLevel =>
    refine field_eq_ok_iff.mpr (.inl ⟨_, ?_, checkLevel_name config.logLevel⟩)
    simp [Config.ownLayer, Config.plainSettings, textData, Table.find?]
  case logFile =>
    rw [field_eq_ok_iff]
    unfold Config.ownLayer Config.plainSettings
    cases config.logFile with
    | none => simp [textData, Table.find?, levelFile, Ne.symm fileModules]
    | some path => simp [textData, Table.find?, levelFile, checkPath]
  case modules =>
    refine field_eq_ok_iff.mpr (.inl ⟨_, ?_, checkModules_own tidy⟩)
    unfold Config.ownLayer Config.plainSettings
    cases config.logFile <;> simp [textData, Table.find?, levelModules, fileModules]
  case declared =>
    unfold undeclared Config.ownLayer Config.plainSettings
    cases config.logFile <;> simp [textData]

/-- Stripping drops characters, unless there is nothing to drop. -/
theorem stripped_eq_or_length_lt (text : Text) :
    stripped text = text ∨ (stripped text).length < text.length := by
  have part : (stripped text).Sublist text := by
    rw [stripped_eq_rdropWhile]
    exact (List.rdropWhile_prefix isMargin _).sublist.trans (List.dropWhile_sublist isMargin)
  rcases part.length_le.eq_or_lt with same | shorter
  · exact .inl (part.eq_of_length same)
  · exact .inr shorter

theorem isTrimmed_iff {text : Text} : IsTrimmed text ↔ stripped text = text :=
  ⟨IsTrimmed.stripped_eq, fun same => same ▸ isTrimmed_stripped text⟩

/-- A normal path is kept if and only if it has no blank margins. -/
theorem normalize_stripped_eq_iff {path : Text} (normal : Path.normalize path = path) :
    Path.normalize (stripped path) = path ↔ IsTrimmed path := by
  rw [isTrimmed_iff]
  constructor
  · intro kept
    refine (stripped_eq_or_length_lt path).resolve_right fun shorter => ?_
    have bound := Path.length_normalize_le (stripped path)
    rw [kept] at bound
    -- Nothing is left, so the path is the dot of the empty path, which has no margins.
    have nothing : stripped path = [] := List.eq_nil_of_length_eq_zero (by omega)
    rw [nothing] at kept
    subst kept
    exact absurd nothing (by decide)
  · intro same
    rw [same, normal]

theorem checkPath_eq_ok {datum : Datum} {file : Option Text}
    (accepted : checkPath datum = .ok file) :
    ∀ path, file = some path → Path.normalize path = path := by
  rintro path rfl
  cases datum with
  | text text =>
    cases accepted
    exact Path.normalize_normalize _
  | _ => cases accepted

/-- The path of the log file of an accepted configuration has its normal spelling. -/
theorem normalize_logFile {defaults : Layer} {layers : List Layer} {config : Config}
    (accepted : load defaults layers = .ok config) :
    ∀ path, config.logFile = some path → Path.normalize path = path := by
  obtain ⟨⟨_, logFile, _⟩, _⟩ := check_eq_ok_iff.mp accepted
  exact field_eq_ok (by simp) (fun _ _ => checkPath_eq_ok) logFile

/-- The own values of an accepted configuration are accepted as the only layer, with the same level
and the same module settings; the path of the log file is stripped and normalised once more. The
configuration is the same if and only if that path has no blank margins, or there is none. -/
theorem load_ownLayer {defaults : Layer} {layers : List Layer} {config : Config}
    (accepted : load defaults layers = .ok config) :
    ∃ again, load config.ownLayer [] = .ok again ∧ again.logLevel = config.logLevel ∧
      again.modules = config.modules ∧
      again.logFile = config.logFile.map (fun path => Path.normalize (stripped path)) ∧
      (again = config ↔ ∀ path, config.logFile = some path → IsTrimmed path) := by
  have normal := normalize_logFile accepted
  refine ⟨_, check_ownLayer (load_eq_ok accepted), rfl, rfl, rfl, ?_⟩
  obtain ⟨logLevel, logFile, modules⟩ := config
  cases logFile with
  | none => simp
  | some path => simpa using normalize_stripped_eq_iff (normal path rfl)

/-- Blanks around every text, a level in small letters, names that become equal and a path with a
detour: what is accepted of them is accepted again as it is. -/
theorem load_ownLayer_tidied :
    let chosen : Layer :=
      [(Key.logLevel, .text " ınfo\n".toList), (Key.logFile, .text " ./logs//run 1.log/ ".toList),
        (Key.modules, .table
          [(Key.prefixMap, .table
            [("b ".toList, .text "old".toList), ("a".toList, .text "".toList),
              (" b".toList, .text "\tnew ".toList)])])]
    let config : Config :=
      { logLevel := .info
        logFile := some "logs/run 1.log".toList
        modules := ⟨[], ⟨[("b".toList, "new".toList), ("a".toList, [])]⟩⟩ }
    load [] [chosen] = .ok config ∧ load config.ownLayer [] = .ok config := by
  intro chosen config
  have accepted : load [] [chosen] = .ok config := by decide +kernel
  obtain ⟨again, loaded, -, -, -, same⟩ := load_ownLayer accepted
  have trimmed : IsTrimmed "logs/run 1.log".toList := isTrimmed_iff.mpr (by decide)
  obtain rfl := same.mpr fun path found => Option.some.inj found ▸ trimmed
  exact ⟨accepted, loaded⟩

/-- The blank behind the dot becomes the first character of the path, and the next load drops it. -/
theorem load_ownLayer_strips_again :
    ∃ config again, load [] [[(Key.logFile, .text "./ a".toList)]] = .ok config ∧
      load config.ownLayer [] = .ok again ∧ config.logFile = some " a".toList ∧
        again.logFile = some "a".toList ∧ again ≠ config :=
  ⟨{ logFile := some " a".toList }, { logFile := some "a".toList }, by decide +kernel,
    by decide +kernel, rfl, rfl, by decide⟩

end CommentDocs.Settings
