import CommentDocs.Proofs.Module.Home
import CommentDocs.Proofs.Source.Collapse

/-!
# How the directories of a map are spelled

A path is collapsed before it is compared with the directories of a map, and these are compared as
they are spelled. A directory that is spelled without `.` and `..` contains a path if it does so
after both are collapsed. One that is spelled with them is no beginning of any collapsed path, even
if it means a directory that contains the path.
-/

namespace CommentDocs.ModuleMap

open Text

/-- The directory that a text means, slash included. The current directory has no text: it is what
remains of a relative text all of whose segments are collapsed. -/
def collapsedDirectory (directory : Text) : Text :=
  if directory.head? ≠ some '/' ∧ Path.collapse directory = [] then []
  else closed (Path.collapse directory)

def collapsedHome (map : ModuleMap) (entry : Text × Text) : Home :=
  ⟨entry.1, collapsedDirectory (map.baseUrl ++ entry.2)⟩

/-- The directory of a home contains a path; the current directory contains relative paths only. -/
def Home.Contains (home : Home) (path : Text) : Prop :=
  home.directory <+: Path.collapse path ∧ (home.directory = [] → path.head? ≠ some '/')

instance (home : Home) (path : Text) : Decidable (home.Contains path) :=
  inferInstanceAs (Decidable (_ ∧ _))

/-- An entry means a directory that contains a path, and no other one that is considered means a
longer one. -/
structure IsLongest (map : ModuleMap) (considered : Text × Text → Prop) (path : Text)
    (entry : Text × Text) : Prop where
  mem : entry ∈ map.prefixes.entries
  counts : considered entry
  contains : (map.collapsedHome entry).Contains path
  longest : ∀ other ∈ map.prefixes.entries, considered other →
    (map.collapsedHome other).Contains path →
      (map.collapsedHome other).directory.length ≤ (map.collapsedHome entry).directory.length

/-- If one of the entries that are considered means a directory that contains a path, the path is
identified by a module of the map and what remains of the path below the longest of them. -/
def ContainmentDecides (map : ModuleMap) (considered : Text × Text → Prop) (path : Text) : Prop :=
  (∃ entry ∈ map.prefixes.entries, considered entry ∧ (map.collapsedHome entry).Contains path) →
    ∃ entry, map.IsLongest considered path entry ∧ ∃ named ∈ map.prefixes.entries,
      map.idOf path =
        Home.idOf ⟨named.1, (map.collapsedHome entry).directory⟩ (Path.collapse path)

/-- The directory of an entry is spelled as it is meant. -/
def IsLiteral (map : ModuleMap) (entry : Text × Text) : Prop :=
  map.baseUrl ++ entry.2 ≠ [] ∧ Path.IsCollapsed (map.baseUrl ++ entry.2)

instance (map : ModuleMap) : DecidablePred map.IsLiteral := fun _ =>
  inferInstanceAs (Decidable (_ ∧ _))

variable {map : ModuleMap} {entry : Text × Text} {directory path : Text}

theorem closed_ne_nil (directory : Text) : closed directory ≠ [] := by
  unfold closed
  split
  · rintro rfl
    contradiction
  · exact List.append_ne_nil_of_right_ne_nil _ (List.cons_ne_nil _ _)

/-- What comes before the slash of a directory that contains a collapsed path is collapsed, too. -/
theorem isCollapsed_of_closed (inside : closed directory <+: path)
    (collapsed : Path.IsCollapsed path) : Path.IsCollapsed directory := by
  obtain ⟨rest, rfl⟩ := inside
  unfold closed at collapsed
  split at collapsed
  · rename_i ends
    obtain ⟨stem, rfl⟩ := List.isSuffixOf_iff_suffix.mp ends
    rw [List.append_assoc] at collapsed
    exact Path.isCollapsed_append.mpr ⟨(Path.isCollapsed_append.mp collapsed).1, by decide⟩
  · rw [List.append_assoc] at collapsed
    exact (Path.isCollapsed_append.mp collapsed).1

/-- A directory that is spelled with `.` or `..` is no beginning of a collapsed path. -/
theorem isCollapsed_of_mem_around (inside : map.homeOf entry ∈ map.around (Path.collapse path)) :
    Path.IsCollapsed (map.baseUrl ++ entry.2) :=
  isCollapsed_of_closed (mem_around_iff.mp inside).2 (Path.isCollapsed_collapse path)

namespace IsLiteral

/-- A literal entry means the directory that it spells. -/
theorem collapsedHome_eq (literal : map.IsLiteral entry) :
    map.collapsedHome entry = map.homeOf entry := by
  rw [collapsedHome, homeOf, collapsedDirectory, Path.collapse_of_isCollapsed literal.2,
    if_neg fun nothing => literal.1 nothing.2]

theorem contains_iff (literal : map.IsLiteral entry) :
    (map.collapsedHome entry).Contains path ↔
      (map.homeOf entry).directory <+: Path.collapse path := by
  rw [Home.Contains, literal.collapsedHome_eq]
  exact and_iff_left fun nothing => absurd nothing (closed_ne_nil _)

theorem mem_around_iff (literal : map.IsLiteral entry) (mem : entry ∈ map.prefixes.entries) :
    map.homeOf entry ∈ map.around (Path.collapse path) ↔
      (map.collapsedHome entry).Contains path := by
  rw [ModuleMap.mem_around_iff, literal.contains_iff]
  exact and_iff_right (List.mem_map_of_mem mem)

end IsLiteral

/-- A home around a path is that of an entry. -/
theorem exists_entry_of_mem_around {home : Home} (mem : home ∈ map.around path) :
    ∃ entry ∈ map.prefixes.entries, map.homeOf entry = home :=
  List.mem_map.mp (mem_around_iff.mp mem).1

/-- Literal containment decides. -/
theorem containmentDecides_literal (map : ModuleMap) (path : Text) :
    map.ContainmentDecides map.IsLiteral path := by
  rintro ⟨entry, mem, literal, contains⟩
  have around := (literal.mem_around_iff mem).mpr contains
  obtain ⟨home, leads⟩ := exists_leads (List.ne_nil_of_mem around)
  have id : map.idOf path = home.idOf (Path.collapse path) := idOfCollapsed_of_leads leads
  obtain ⟨named, listed, rfl⟩ := exists_entry_of_mem_around leads.mem
  -- whichever home leads, no literal entry means a longer directory
  have longest (other : Text × Text) (also : other ∈ map.prefixes.entries)
      (plain : map.IsLiteral other) (inside : (map.collapsedHome other).Contains path) :
      (map.collapsedHome other).directory.length ≤ (map.homeOf named).directory.length := by
    rw [plain.collapsedHome_eq]
    exact leads.longest _ ((plain.mem_around_iff also).mpr inside)
  by_cases empty : map.baseUrl ++ named.2 = []
  · -- the home that leads is the root of an entry without text, so the given entry spells the root
    have root : (map.homeOf named).directory = (map.collapsedHome entry).directory := by
      have short := longest entry mem literal contains
      rw [literal.collapsedHome_eq] at short ⊢
      refine directory_eq_of_length_eq leads.mem around (Nat.le_antisymm ?_ short)
      rw [homeOf, empty]
      exact List.length_pos_iff.mpr (closed_ne_nil _)
    rw [root] at longest
    refine ⟨entry, ⟨mem, literal, contains, longest⟩, named, listed, ?_⟩
    rw [id, ← root]
    rfl
  · have plain : map.IsLiteral named := ⟨empty, isCollapsed_of_mem_around leads.mem⟩
    rw [← plain.collapsedHome_eq] at longest
    refine ⟨named, ⟨listed, plain, (plain.mem_around_iff listed).mp leads.mem, longest⟩, named,
      listed, ?_⟩
    rw [id, plain.collapsedHome_eq]
    rfl

/-- Containment decides among the directories that are spelled without `.` and `..`: after both are
collapsed, such a directory contains a path if and only if it is a beginning of the path, and if one
of them contains the path, the path is identified below the longest of them. An entry that is
spelled with `.` or `..` contains no path and might as well be left out. If all entries spell
something and none of those without `.` and `..` contains a path, the path identifies itself. -/
theorem idOf_of_literal_directory (map : ModuleMap) (path : Text) :
    (∀ entry, map.IsLiteral entry →
        map.collapsedHome entry = map.homeOf entry ∧
          ((map.collapsedHome entry).Contains path ↔
            (map.homeOf entry).directory <+: Path.collapse path)) ∧
      map.ContainmentDecides map.IsLiteral path ∧
      (∀ entry, ¬ Path.IsCollapsed (map.baseUrl ++ entry.2) →
        ¬ (map.homeOf entry).directory <+: Path.collapse path) ∧
      { map with prefixes := ⟨map.prefixes.entries.filter fun entry =>
          Path.IsCollapsed (map.baseUrl ++ entry.2)⟩ : ModuleMap }.idOf path = map.idOf path ∧
      ((∀ entry ∈ map.prefixes.entries, map.baseUrl ++ entry.2 ≠ []) →
        (∀ entry ∈ map.prefixes.entries, map.IsLiteral entry →
          ¬ (map.collapsedHome entry).Contains path) →
        map.idOf path = cleaned (Path.collapse path)) := by
  have outside (entry : Text × Text) (dotted : ¬ Path.IsCollapsed (map.baseUrl ++ entry.2)) :
      ¬ (map.homeOf entry).directory <+: Path.collapse path := fun inside =>
    dotted (isCollapsed_of_closed inside (Path.isCollapsed_collapse path))
  refine ⟨fun entry literal => ⟨literal.collapsedHome_eq, literal.contains_iff⟩,
    containmentDecides_literal map path, outside, ?_, fun spelled none => ?_⟩
  · refine idOfCollapsed_filter fun entry _ inside => decide_eq_true ?_
    exact not_not.mp fun dotted => outside entry dotted inside
  · refine idOfCollapsed_of_homeless (List.eq_nil_iff_forall_not_mem.mpr fun home mem => ?_)
    obtain ⟨entry, listed, rfl⟩ := exists_entry_of_mem_around mem
    have literal : map.IsLiteral entry := ⟨spelled entry listed, isCollapsed_of_mem_around mem⟩
    exact none entry listed literal ((literal.mem_around_iff listed).mp mem)

/-- A directory within another one, and the same inner directory spelled with a `.`. -/
def dotted : ModuleMap where
  baseUrl := "/p/".toList
  prefixes := ⟨[("a".toList, "src".toList), ("b".toList, "./src/x".toList)]⟩

/-- The inner directory is not found as it is spelled, the outer one is. -/
theorem idOf_of_literal_directory_dotted :
    let path := "/p/lib/../src/x/y.js".toList
    let inner := ("b".toList, "./src/x".toList)
    let outer := ("a".toList, "src".toList)
    (dotted.IsLiteral outer ∧ (dotted.collapsedHome outer).Contains path ∧
        (dotted.homeOf outer).directory <+: Path.collapse path) ∧
      (∃ entry, dotted.IsLongest dotted.IsLiteral path entry ∧
        ∃ named ∈ dotted.prefixes.entries, dotted.idOf path =
          Home.idOf ⟨named.1, (dotted.collapsedHome entry).directory⟩ (Path.collapse path)) ∧
      ((dotted.collapsedHome inner).Contains path ∧
        ¬ Path.IsCollapsed (dotted.baseUrl ++ inner.2) ∧
        ¬ (dotted.homeOf inner).directory <+: Path.collapse path) ∧
      dotted.idOf path = "a/x/y".toList := by
  intro path inner outer
  obtain ⟨literally, decides, outside, -, -⟩ := idOf_of_literal_directory dotted path
  have literal : dotted.IsLiteral outer := by decide
  have contains : (dotted.collapsedHome outer).Contains path := by decide
  have dots : ¬ Path.IsCollapsed (dotted.baseUrl ++ inner.2) := by decide
  exact ⟨⟨literal, contains, (literally outer literal).2.mp contains⟩,
    decides ⟨outer, by decide, literal, contains⟩, ⟨by decide, dots, outside inner dots⟩, by decide⟩

def relocated : ModuleMap where
  baseUrl := "./src/".toList
  prefixes := ⟨[("app".toList, [])]⟩

/-- Containment does not decide among all entries: `./src/` means a directory that contains
`src/a.js`, and the path identifies itself. -/
theorem not_containmentDecides_relocated :
    (relocated.collapsedHome ("app".toList, [])).directory = "src/".toList ∧
      relocated.idOf "src/a.js".toList = "src/a".toList ∧
      ¬ relocated.ContainmentDecides (fun _ => True) "src/a.js".toList := by
  refine ⟨by decide, by decide, fun decides => ?_⟩
  obtain ⟨entry, longest, named, listed, id⟩ :=
    decides ⟨("app".toList, []), by decide, trivial, by decide⟩
  obtain rfl := List.mem_singleton.mp longest.mem
  obtain rfl := List.mem_singleton.mp listed
  revert id
  decide

end CommentDocs.ModuleMap
