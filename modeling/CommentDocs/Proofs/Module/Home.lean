import CommentDocs.Module.Id
import Mathlib.Data.List.MinMax
import Mathlib.Data.List.Infix
import Mathlib.Data.List.Nodup

/-!
# The home of a path

The home of a path is the first of the longest among the directories that contain it. Of two
directories that contain one path the shorter contains the longer, so equally long ones are the
same directory: where all directories differ, the order of the map does not count, and a directory
that does not contain the path never does.

The identifier of a path without a home should be the path without its leading slash and its
extension. It is, except that the extension is also taken from in front of a newline.
-/

namespace CommentDocs.ModuleMap

open Text

def homeOf (map : ModuleMap) (entry : Text × Text) : Home :=
  ⟨entry.1, closed (map.baseUrl ++ entry.2)⟩

/-- The homes whose directories contain a path, in the order of the map. -/
def around (map : ModuleMap) (path : Text) : List Home :=
  map.homes.filter fun home => home.directory.isPrefixOf path

/-- A home comes first among those of a list that have the longest directory. -/
structure Home.Leads (home : Home) (homes : List Home) : Prop where
  mem : home ∈ homes
  longest : ∀ other ∈ homes, other.directory.length ≤ home.directory.length
  earliest : ∀ other ∈ homes, other.directory.length = home.directory.length →
    homes.idxOf home ≤ homes.idxOf other

def Home.idOf (home : Home) (path : Text) : Text :=
  let remainder := cleaned (path.drop home.directory.length)
  if remainder = "main".toList then home.module else home.module ++ '/' :: remainder

def withoutRoot : Text → Text
  | '/' :: rest => rest
  | path => path

variable {map : ModuleMap} {home other : Home} {path : Text}

theorem mem_around_iff : home ∈ map.around path ↔ home ∈ map.homes ∧ home.directory <+: path := by
  rw [around, List.mem_filter, List.isPrefixOf_iff_prefix]

theorem home?_eq_argmax (map : ModuleMap) (path : Text) :
    map.home? path = (map.around path).argmax (·.directory.length) := by
  have same : better = List.argAux fun next best : Home =>
      best.directory.length < next.directory.length := by
    funext best next
    cases best <;> rfl
  rw [home?, same, List.argmax, around]

theorem home?_eq_some_iff : map.home? path = some home ↔ home.Leads (map.around path) := by
  rw [home?_eq_argmax, List.argmax_eq_some_iff]
  constructor
  · rintro ⟨mem, longest, earliest⟩
    exact ⟨mem, longest, fun other here same => earliest other here same.ge⟩
  · rintro ⟨mem, longest, earliest⟩
    refine ⟨mem, longest, fun other here long => ?_⟩
    exact earliest other here (Nat.le_antisymm (longest other here) long)

theorem home?_eq_none_iff : map.home? path = none ↔ map.around path = [] := by
  rw [home?_eq_argmax, List.argmax_eq_none]

theorem exists_leads (contained : map.around path ≠ []) :
    ∃ home : Home, home.Leads (map.around path) := by
  obtain ⟨home, found⟩ := Option.ne_none_iff_exists'.mp (home?_eq_none_iff.not.mpr contained)
  exact ⟨home, home?_eq_some_iff.mp found⟩

theorem idOfCollapsed_of_leads (leads : home.Leads (map.around path)) :
    map.idOfCollapsed path = home.idOf path := by
  rw [idOfCollapsed, home?_eq_some_iff.mpr leads]
  rfl

theorem idOfCollapsed_of_homeless (homeless : map.around path = []) :
    map.idOfCollapsed path = cleaned path := by
  rw [idOfCollapsed, home?_eq_none_iff.mpr homeless]

/-- Equally long directories that contain one path are the same. -/
theorem directory_eq_of_length_eq (mem : home ∈ map.around path) (also : other ∈ map.around path)
    (same : home.directory.length = other.directory.length) : home.directory = other.directory :=
  (List.prefix_of_prefix_length_le (mem_around_iff.mp mem).2 (mem_around_iff.mp also).2
    same.le).eq_of_length same

/-- Where all directories differ, no other home is as long as the one that leads. -/
theorem Home.Leads.of_perm {homes : List Home} (leads : home.Leads (map.around path))
    (perm : homes.Perm (map.around path)) (distinct : (map.homes.map (·.directory)).Nodup) :
    home.Leads homes := by
  refine ⟨perm.mem_iff.mpr leads.mem, fun other mem => leads.longest other (perm.mem_iff.mp mem),
    fun other mem same => ?_⟩
  have also := perm.mem_iff.mp mem
  have equal : other = home := List.inj_on_of_nodup_map distinct (mem_around_iff.mp also).1
    (mem_around_iff.mp leads.mem).1 (directory_eq_of_length_eq also leads.mem same)
  rw [equal]

/-- Two maps whose homes around a path are led by the same ones give it the same identifier. -/
theorem idOfCollapsed_congr {second : ModuleMap}
    (same : map.home? path = second.home? path) :
    map.idOfCollapsed path = second.idOfCollapsed path := by
  rw [idOfCollapsed, idOfCollapsed, same]

theorem idOfCollapsed_of_perm {entries : List (Text × Text)}
    (perm : entries.Perm map.prefixes.entries) (distinct : (map.homes.map (·.directory)).Nodup) :
    { map with prefixes := ⟨entries⟩ : ModuleMap }.idOfCollapsed path = map.idOfCollapsed path := by
  have around : ({ map with prefixes := ⟨entries⟩ : ModuleMap }.around path).Perm
      (map.around path) :=
    (perm.map map.homeOf).filter _
  refine idOfCollapsed_congr ?_
  cases found : map.home? path with
  | none =>
    rw [home?_eq_none_iff] at found ⊢
    exact List.perm_nil.mp (found ▸ around)
  | some home =>
    rw [home?_eq_some_iff] at found ⊢
    exact found.of_perm around distinct

theorem idOfCollapsed_filter {keep : Text × Text → Bool}
    (kept : ∀ entry ∈ map.prefixes.entries,
      (map.homeOf entry).directory <+: path → keep entry = true) :
    { map with prefixes := ⟨map.prefixes.entries.filter keep⟩ : ModuleMap }.idOfCollapsed path =
      map.idOfCollapsed path := by
  have around :
      { map with prefixes := ⟨map.prefixes.entries.filter keep⟩ : ModuleMap }.around path =
      map.around path := by
    change ((map.prefixes.entries.filter keep).map map.homeOf).filter _ =
      (map.prefixes.entries.map map.homeOf).filter _
    rw [List.filter_map, List.filter_map, List.filter_filter]
    congr 1
    refine List.filter_congr fun entry mem => ?_
    by_cases inside : (map.homeOf entry).directory <+: path
    · simp [kept entry mem inside]
    · have outside : (map.homeOf entry).directory.isPrefixOf path = false := by
        rwa [Bool.eq_false_iff, ne_eq, List.isPrefixOf_iff_prefix]
      simp [outside]
  refine idOfCollapsed_congr ?_
  rw [home?_eq_argmax, home?_eq_argmax, around]

theorem cleaned_eq (path : Text) : cleaned path = withoutRoot (withoutExtension path) := rfl

theorem withoutRoot_append (stem : Text) {rest : Text} (inside : rest.head? ≠ some '/') :
    withoutRoot (stem ++ rest) = withoutRoot stem ++ rest := by
  cases stem with
  | nil =>
    rw [List.nil_append, withoutRoot, withoutRoot]
    · rfl
    · simp
    · rintro tail rfl
      exact inside rfl
  | cons c stem =>
    by_cases slash : c = '/'
    · subst slash
      rfl
    · rw [List.cons_append, withoutRoot, withoutRoot]
      · rfl
      · exact fun _ same => slash (List.cons.inj same).1
      · exact fun _ same => slash (List.cons.inj same).1

/-- The extension is taken from in front of a newline. -/
theorem cleaned_of_newline (stem : Text) :
    cleaned (stem ++ ".js\n".toList) = withoutRoot stem ++ ['\n'] := by
  have ends : ".js\n".toList.isSuffixOf (stem ++ ".js\n".toList) = true :=
    List.isSuffixOf_iff_suffix.mpr (List.suffix_append stem _)
  rw [cleaned_eq, withoutExtension, if_pos ends, dropSuffix_append,
    withoutRoot_append stem (by decide)]

theorem cleaned_eq_iff (path : Text) :
    cleaned path = withoutRoot (dropSuffix ".js".toList path) ↔ ¬ ".js\n".toList <:+ path := by
  constructor
  · rintro same ⟨stem, rfl⟩
    have other : ¬ ".js".toList <:+ stem ++ ".js\n".toList := by
      rintro ⟨before, equal⟩
      have last := congrArg List.getLast? equal
      simp at last
    rw [cleaned_of_newline, dropSuffix_of_not_suffix other, withoutRoot_append stem (by decide)]
      at same
    exact absurd (List.append_cancel_left same) (by decide)
  · intro plain
    have ends : ".js\n".toList.isSuffixOf path = false := by
      rwa [Bool.eq_false_iff, ne_eq, List.isSuffixOf_iff_suffix]
    rw [cleaned_eq, withoutExtension, ends]
    rfl

/-- A path is identified through the first of the longest directories that contain it, and neither
the order of different directories nor any directory that does not contain it counts. A path in
none of the directories is identified by itself without leading slash and extension, with one
exception: if a newline ends the path, the extension is taken from in front of it, too. -/
theorem idOf_of_longest_directory (map : ModuleMap) (path : Text) :
    (∀ home : Home, home.Leads (map.around (Path.collapse path)) →
        map.idOf path = home.idOf (Path.collapse path)) ∧
      (map.around (Path.collapse path) ≠ [] →
        ∃ home : Home, home.Leads (map.around (Path.collapse path))) ∧
      (map.around (Path.collapse path) = [] →
        (map.idOf path = withoutRoot (dropSuffix ".js".toList (Path.collapse path)) ↔
          ¬ ".js\n".toList <:+ Path.collapse path) ∧
        ∀ stem, Path.collapse path = stem ++ ".js\n".toList →
          map.idOf path = withoutRoot stem ++ ['\n']) ∧
      (∀ entries : List (Text × Text), entries.Perm map.prefixes.entries →
        (map.homes.map (·.directory)).Nodup →
        { map with prefixes := ⟨entries⟩ : ModuleMap }.idOf path = map.idOf path) ∧
      ∀ keep : Text × Text → Bool,
        (∀ entry ∈ map.prefixes.entries,
          (map.homeOf entry).directory <+: Path.collapse path → keep entry = true) →
        { map with prefixes := ⟨map.prefixes.entries.filter keep⟩ : ModuleMap }.idOf path =
          map.idOf path := by
  refine ⟨fun _ => idOfCollapsed_of_leads, exists_leads, fun homeless => ⟨?_, fun stem same => ?_⟩,
    fun _ => idOfCollapsed_of_perm, fun _ => idOfCollapsed_filter⟩
  · rw [idOf, idOfCollapsed_of_homeless homeless, cleaned_eq_iff]
  · rw [idOf, idOfCollapsed_of_homeless homeless, same, cleaned_of_newline]

/-- Nested directories, the inner one listed twice, and a directory beside them. -/
def nested : ModuleMap where
  baseUrl := "/p/".toList
  prefixes := ⟨[("a".toList, "src".toList), ("b".toList, "src/x".toList),
    ("c".toList, "src/x/".toList), ("d".toList, "lib".toList)]⟩

def nestedOnce : ModuleMap :=
  { nested with prefixes := ⟨nested.prefixes.entries.filter fun entry => entry.1 ≠ "c".toList⟩ }

/-- The inner directory wins over the outer one and `b` over `c`, which comes later; the path
beside all directories has no home. -/
theorem idOf_of_longest_directory_nested :
    let main := "/p/lib/../src/./x/main.js".toList
    let beside := "/p/srcx/y.js".toList
    let home : Home := ⟨"b".toList, "/p/src/x/".toList⟩
    let reversed := nestedOnce.prefixes.entries.reverse
    let keep := fun entry : Text × Text => decide (entry.1 ≠ "d".toList)
    (home.Leads (nested.around (Path.collapse main)) ∧
        nested.idOf main = home.idOf (Path.collapse main)) ∧
      (nested.around (Path.collapse beside) = [] ∧ ¬ ".js\n".toList <:+ Path.collapse beside ∧
        nested.idOf beside = withoutRoot (dropSuffix ".js".toList (Path.collapse beside))) ∧
      (reversed.Perm nestedOnce.prefixes.entries ∧
        (nestedOnce.homes.map (·.directory)).Nodup ∧
        { nestedOnce with prefixes := ⟨reversed⟩ : ModuleMap }.idOf main = nestedOnce.idOf main) ∧
      (∀ entry ∈ nested.prefixes.entries,
          (nested.homeOf entry).directory <+: Path.collapse main → keep entry = true) ∧
        { nested with prefixes := ⟨nested.prefixes.entries.filter keep⟩ : ModuleMap }.idOf main =
          nested.idOf main := by
  intro main beside home reversed keep
  have leads : home.Leads (nested.around (Path.collapse main)) :=
    ⟨by decide, by decide, by decide⟩
  have homeless : nested.around (Path.collapse beside) = [] := by decide
  have noLine : ¬ ".js\n".toList <:+ Path.collapse beside := by decide
  have perm : reversed.Perm nestedOnce.prefixes.entries := List.reverse_perm _
  have distinct : (nestedOnce.homes.map (·.directory)).Nodup := by decide
  have kept : ∀ entry ∈ nested.prefixes.entries,
      (nested.homeOf entry).directory <+: Path.collapse main → keep entry = true := by decide
  obtain ⟨byHome, _, _, _, byFilter⟩ := idOf_of_longest_directory nested main
  obtain ⟨_, _, byPath, _, _⟩ := idOf_of_longest_directory nested beside
  obtain ⟨_, _, _, byPerm, _⟩ := idOf_of_longest_directory nestedOnce main
  exact ⟨⟨leads, byHome home leads⟩, ⟨homeless, noLine, (byPath homeless).1.mpr noLine⟩,
    ⟨perm, distinct, byPerm reversed perm distinct⟩, kept, byFilter keep kept⟩

/-- A path without a home that ends in a newline loses an extension that is not at its end. -/
theorem idOf_drops_extension_before_newline :
    let path := "a.js\n".toList
    ({} : ModuleMap).around (Path.collapse path) = [] ∧
      ({} : ModuleMap).idOf path ≠ withoutRoot (dropSuffix ".js".toList (Path.collapse path)) := by
  decide

end CommentDocs.ModuleMap
