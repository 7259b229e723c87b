import CommentDocs.Proofs.Module.Home
import CommentDocs.Proofs.Settings.Rendering

/-!
# Module identifiers after a reload

A settings file lists the modules in the order of their names, so reloading it may change which
of several modules with one directory comes first. Nothing else changes: the longest directory
around a path is the same, and of the modules that share it the reloaded configuration chooses the
one with the least name. Where no two modules share a directory every identifier is kept.
-/

namespace CommentDocs

open Text

namespace ModuleMap

variable {map : ModuleMap} {home other : Home} {path : Text}

/-- The map with its modules in the order in which a settings file lists them. -/
def listed (map : ModuleMap) : ModuleMap :=
  { map with prefixes := ⟨Settings.sortedEntries map.prefixes⟩ }

theorem perm_homes_listed (map : ModuleMap) : map.listed.homes.Perm map.homes :=
  (Settings.perm_sortedEntries map.prefixes).map _

theorem mem_around_listed_iff : home ∈ map.listed.around path ↔ home ∈ map.around path := by
  rw [mem_around_iff, mem_around_iff, (perm_homes_listed map).mem_iff]

theorem around_listed_eq_nil_iff : map.listed.around path = [] ↔ map.around path = [] := by
  simp only [List.eq_nil_iff_forall_not_mem, mem_around_listed_iff]

theorem pairwise_around_listed (tidy : Settings.IsTidy map.prefixes) (path : Text) :
    (map.listed.around path).Pairwise fun one next => one.module < next.module := by
  have ascending : map.listed.homes.Pairwise fun one next => one.module < next.module :=
    List.pairwise_map.mpr (List.pairwise_map.mp (Settings.pairwise_sortedEntries tidy))
  exact ascending.sublist List.filter_sublist

/-- Among modules in the order of their names, the leading one has the least name. -/
theorem Home.Leads.module_le {homes : List Home}
    (ascending : homes.Pairwise fun one next => one.module < next.module)
    (leads : home.Leads homes) (mem : other ∈ homes)
    (same : other.directory.length = home.directory.length) : home.module ≤ other.module := by
  rcases (leads.earliest other mem same).eq_or_lt with equal | earlier
  · rw [(List.idxOf_inj leads.mem).mp equal]
  · have less := List.pairwise_iff_getElem.mp ascending _ _
      (List.idxOf_lt_length_of_mem leads.mem) (List.idxOf_lt_length_of_mem mem) earlier
    rw [List.getElem_idxOf, List.getElem_idxOf] at less
    exact le_of_lt less

/-- A module that has the least name among those with its directory. -/
def Home.IsLeast (home : Home) (homes : List Home) : Prop :=
  ∀ other ∈ homes, other.directory = home.directory → home.module ≤ other.module

theorem idOfCollapsed_listed_of_nodup (distinct : (map.homes.map (·.directory)).Nodup) :
    map.listed.idOfCollapsed path = map.idOfCollapsed path :=
  idOfCollapsed_of_perm (Settings.perm_sortedEntries _) distinct

/-- In a directory the identifier of a path tells its module. -/
theorem Home.idOf_inj (same : home.directory = other.directory) :
    home.idOf path = other.idOf path ↔ home.module = other.module := by
  unfold Home.idOf
  rw [same]
  dsimp only
  split
  · exact Iff.rfl
  · exact List.append_left_inj _

theorem Home.Leads.exists_listed (leads : home.Leads (map.around path)) :
    ∃ first : Home, first.Leads (map.listed.around path) :=
  exists_leads fun empty => List.ne_nil_of_mem leads.mem (around_listed_eq_nil_iff.mp empty)

/-- The leading module of the listed map has the directory of the leading module, and the least
name among the modules that share it. -/
theorem Home.Leads.listed (tidy : Settings.IsTidy map.prefixes)
    (leads : home.Leads (map.around path)) (first : other.Leads (map.listed.around path)) :
    other ∈ map.homes ∧ other.directory = home.directory ∧ other.IsLeast map.homes := by
  have mem : other ∈ map.around path := mem_around_listed_iff.mp first.mem
  have same : other.directory = home.directory := by
    refine directory_eq_of_length_eq mem leads.mem (Nat.le_antisymm ?_ ?_)
    · exact leads.longest other mem
    · exact first.longest home (mem_around_listed_iff.mpr leads.mem)
  refine ⟨(mem_around_iff.mp mem).1, same, fun third inside shared => ?_⟩
  have contained : third ∈ map.around path := by
    rw [mem_around_iff, shared]
    exact ⟨inside, (mem_around_iff.mp mem).2⟩
  exact first.module_le (pairwise_around_listed tidy path) (mem_around_listed_iff.mpr contained)
    (congrArg List.length shared)

/-- Listing the modules by name keeps the identifier of a path if and only if no module with the
same directory as its own has a lesser name. -/
theorem idOfCollapsed_listed_iff (tidy : Settings.IsTidy map.prefixes)
    (leads : home.Leads (map.around path)) :
    map.listed.idOfCollapsed path = map.idOfCollapsed path ↔ home.IsLeast map.homes := by
  obtain ⟨first, leading⟩ := leads.exists_listed
  obtain ⟨mem, same, least⟩ := leads.listed tidy leading
  rw [idOfCollapsed_of_leads leading, idOfCollapsed_of_leads leads, Home.idOf_inj same]
  constructor
  · intro equal third inside shared
    exact equal ▸ least third inside (shared.trans same.symm)
  · intro chosen
    have inside : home ∈ map.homes := (mem_around_iff.mp leads.mem).1
    exact le_antisymm (least home inside same.symm) (chosen first mem same)

end ModuleMap

namespace Settings

open ModuleMap

/-- Settings without a module, as the packaged ones are: a level, a base and an empty prefix map. -/
def moduleless (level base : Datum) : Layer :=
  [(Key.logLevel, level),
    (Key.modules, .table [(Key.baseUrl, base), (Key.prefixMap, .table [])])]

theorem Config.merged_layer (config : Config) : merged [] [config.layer] = config.layer :=
  overlay_of_distinct config.nodup_names_layer

/-- On top of settings without a module a settings file says the same as alone. -/
theorem check_overlay_moduleless (level base : Datum) {config : Config}
    (tidy : IsTidy config.modules.prefixes) :
    check (overlay (moduleless level base) config.layer) = check config.layer := by
  have entries : overlay [] (textData (sortedEntries config.modules.prefixes)) =
      textData (sortedEntries config.modules.prefixes) :=
    overlay_of_distinct (by simpa [textData, Function.comp_def] using nodup_sortedEntries tidy)
  have others : Key.modules ≠ Key.logLevel ∧ Key.logFile ≠ Key.logLevel ∧
      Key.logFile ≠ Key.modules ∧ Key.baseUrl ≠ Key.prefixMap := by decide
  obtain ⟨logLevel, logFile, modules⟩ := config
  cases logFile <;>
    simp_all [moduleless, Config.layer, Config.plainSettings, textData, overlay, overlayDatum,
      Table.find?, Table.putIn, check, field, undeclared, Ne.symm]

/-- A saved configuration is accepted again, alone and on top of settings without a module. A path
in no directory keeps its identifier. Any other path gets the identifier by which, of the modules
that share the longest directory around it, the one with the least name is used; so it keeps its own
if and only if the module chosen before has the least name. Where all directories differ every
identifier is kept. -/
theorem idOf_reloaded_iff {defaults : Layer} {layers : List Layer} {config : Config}
    (accepted : load defaults layers = .ok config) :
    ∃ layer reloaded, Toml.read (render config) = .ok layer ∧
      load [] [layer] = .ok reloaded ∧
      (∀ level base, load (moduleless level base) [layer] = .ok reloaded) ∧
      ∀ path,
        (config.modules.around (Path.collapse path) = [] →
          reloaded.modules.idOf path = config.modules.idOf path) ∧
        (∀ home : Home, home.Leads (config.modules.around (Path.collapse path)) →
          (∃ first ∈ config.modules.homes, first.directory = home.directory ∧
            first.IsLeast config.modules.homes ∧
            reloaded.modules.idOf path = first.idOf (Path.collapse path)) ∧
          (reloaded.modules.idOf path = config.modules.idOf path ↔
            home.IsLeast config.modules.homes)) ∧
        ((config.modules.homes.map (·.directory)).Nodup →
          reloaded.modules.idOf path = config.modules.idOf path) := by
  have tidy := load_eq_ok accepted
  refine ⟨config.layer, _, read_render_layer tidy.prefixes,
    (congrArg check config.merged_layer).trans (check_layer tidy),
    fun level base => (check_overlay_moduleless level base tidy.prefixes).trans (check_layer tidy),
    fun path => ⟨?_, ?_, ?_⟩⟩
  · intro homeless
    exact (idOfCollapsed_of_homeless (around_listed_eq_nil_iff.mpr homeless)).trans
      (idOfCollapsed_of_homeless homeless).symm
  · intro home leads
    obtain ⟨first, leading⟩ := leads.exists_listed
    obtain ⟨mem, same, least⟩ := leads.listed tidy.prefixes leading
    exact ⟨⟨first, mem, same, least, idOfCollapsed_of_leads leading⟩,
      idOfCollapsed_listed_iff tidy.prefixes leads⟩
  · exact idOfCollapsed_listed_of_nodup

/-- Two modules share a directory that lies in the directory of a third one. -/
def sharing : Layer :=
  [(Key.modules, .table
    [(Key.baseUrl, .text "/p/".toList),
      (Key.prefixMap, .table
        [("top".toList, .text "".toList), ("b".toList, .text "lib".toList),
          ("a".toList, .text "lib/".toList)])])]

def shared : Config where
  modules := ⟨"/p/".toList,
    ⟨[("top".toList, []), ("b".toList, "lib".toList), ("a".toList, "lib/".toList)]⟩⟩

theorem load_sharing : load [] [sharing] = .ok shared := by decide +kernel

/-- Above the shared directory the identifier is kept. -/
theorem idOf_reloaded_iff_sharing :
    load [] [sharing] = .ok shared ∧
      ∃ layer reloaded, Toml.read (render shared) = .ok layer ∧
        load [] [layer] = .ok reloaded ∧
          reloaded.modules.idOf "/p/f.js".toList = "top/f".toList := by
  obtain ⟨layer, reloaded, read, alone, -, ids⟩ := idOf_reloaded_iff load_sharing
  refine ⟨load_sharing, layer, reloaded, read, alone, ?_⟩
  have leads : Home.Leads ⟨"top".toList, "/p/".toList⟩
      (shared.modules.around (Path.collapse "/p/f.js".toList)) := by
    rw [← home?_eq_some_iff]
    decide
  rw [((ids "/p/f.js".toList).2.1 _ leads).2.mpr fun other mem => ?_]
  · decide
  · revert other
    decide

/-- A reload may rename a module: in the shared directory the first module of the configuration is
used before it, and the one with the least name after it. -/
theorem idOf_reloaded_renames :
    load [] [sharing] = .ok shared ∧
      shared.modules.idOf "/p/lib/f.js".toList = "b/f".toList ∧
      ∃ layer reloaded, Toml.read (render shared) = .ok layer ∧ load [] [layer] = .ok reloaded ∧
        reloaded.modules.idOf "/p/lib/f.js".toList = "a/f".toList := by
  have tidy := load_eq_ok load_sharing
  have sorted : sortedEntries shared.modules.prefixes =
      [("a".toList, "lib/".toList), ("b".toList, "lib".toList), ("top".toList, [])] := by
    simp [shared, sortedEntries, List.mergeSort, List.MergeSort.Internal.splitInTwo, precedes]
  refine ⟨load_sharing, by decide, shared.layer, _, read_render_layer tidy.prefixes,
    (congrArg check shared.merged_layer).trans (check_layer tidy), ?_⟩
  rw [sorted]
  decide

end Settings

end CommentDocs
