import CommentDocs.Settings.Config
import Mathlib.Data.List.DropRight
import Mathlib.Data.List.TakeWhile

/-!
# Accepted settings are valid

Texts lose their blank margins when they are accepted, and entries whose names become equal so are
put together. So the base of an accepted configuration and the names and values of its prefix map
have no blank margins, every name occurs once, and accepting any of them again changes nothing.
-/

namespace CommentDocs.Settings

open Text

/-- A text that neither starts nor ends with a margin character. -/
structure IsTrimmed (text : Text) : Prop where
  head : ∀ c, text.head? = some c → isMargin c = false
  last : ∀ c, text.getLast? = some c → isMargin c = false

theorem isTrimmed_nil : IsTrimmed [] := by
  constructor <;> (intro c found; cases found)

theorem stripped_eq_rdropWhile (text : Text) :
    stripped text = (text.dropWhile isMargin).rdropWhile isMargin := rfl

/-- What is dropped at the end leaves the start as it is. -/
theorem isTrimmed_stripped (text : Text) : IsTrimmed (stripped text) := by
  rw [stripped_eq_rdropWhile]
  constructor
  · intro c first
    obtain ⟨dropped, whole⟩ := List.rdropWhile_prefix isMargin (l := text.dropWhile isMargin)
    have start : (text.dropWhile isMargin).head? = some c := by
      rw [← whole, List.head?_append, first]
      rfl
    simpa [start] using List.head?_dropWhile_not isMargin text
  · intro c last
    obtain ⟨nonempty, rfl⟩ := List.mem_getLast?_eq_getLast last
    simpa using List.rdropWhile_last_not isMargin _ nonempty

theorem IsTrimmed.stripped_eq {text : Text} (trimmed : IsTrimmed text) : stripped text = text := by
  have front : text.dropWhile isMargin = text := by
    rw [List.dropWhile_eq_self_iff]
    intro nonempty
    simp [trimmed.head _ (List.getElem_zero nonempty ▸ List.head?_eq_some_head _)]
  rw [stripped_eq_rdropWhile, front, List.rdropWhile_eq_self_iff]
  intro nonempty
  simp [trimmed.last _ (List.getLast?_eq_some_getLast nonempty)]

/-- A table of texts whose names and values have no margins and whose names are distinct. -/
structure IsTidy (table : Table Text) : Prop where
  trimmed : ∀ entry ∈ table.entries, IsTrimmed entry.1 ∧ IsTrimmed entry.2
  distinct : table.names.Nodup

theorem isTidy_empty : IsTidy {} :=
  ⟨fun _ mem => absurd mem List.not_mem_nil, List.nodup_nil⟩

theorem IsTidy.put {table : Table Text} (tidy : IsTidy table) {name value : Text}
    (trimmed : IsTrimmed name ∧ IsTrimmed value) : IsTidy (table.put name value) := by
  refine ⟨fun entry mem => ?_, Table.nodup_names_put tidy.distinct name value⟩
  rcases Table.mem_entries_put mem with rfl | old
  · exact trimmed
  · exact tidy.trimmed entry old

theorem checkText_eq_ok {datum : Datum} {value : Text} (accepted : checkText datum = .ok value) :
    IsTrimmed value := by
  cases datum with
  | text text =>
    cases accepted
    exact isTrimmed_stripped text
  | _ => cases accepted

theorem checkEntries_eq_ok {entries : List (Text × Datum)} {known table : Table Text}
    (tidy : IsTidy known) (accepted : checkEntries entries known = .ok table) : IsTidy table := by
  induction entries generalizing known with
  | nil =>
    cases accepted
    exact tidy
  | cons entry rest ih =>
    obtain ⟨key, datum⟩ := entry
    rw [checkEntries] at accepted
    split at accepted
    · rename_i value found
      have trimmed := checkText_eq_ok (Checked.under_eq_ok_iff.mp found)
      exact ih (tidy.put ⟨isTrimmed_stripped key, trimmed⟩) accepted
    · cases accepted

theorem checkTable_eq_ok {datum : Datum} {table : Table Text}
    (accepted : checkTable datum = .ok table) : IsTidy table := by
  cases datum with
  | table entries => exact checkEntries_eq_ok isTidy_empty accepted
  | _ => cases accepted

/-- Module settings without margins in which every module has one directory. -/
structure AreTidy (modules : ModuleMap) : Prop where
  baseUrl : IsTrimmed modules.baseUrl
  prefixes : IsTidy modules.prefixes

/-- A property of the default and of all accepted values is one of the field. -/
theorem field_eq_ok {α : Type} {layer : Layer} {key : Text} {default value : α}
    {check : Datum → Checked α} {property : α → Prop} (atDefault : property default)
    (atAccepted : ∀ datum value, check datum = .ok value → property value)
    (accepted : field layer key default check = .ok value) : property value := by
  rcases field_eq_ok_iff.mp accepted with ⟨datum, _, checked⟩ | ⟨_, rfl⟩
  · exact atAccepted datum value checked
  · exact atDefault

theorem checkModules_eq_ok {datum : Datum} {modules : ModuleMap}
    (accepted : checkModules datum = .ok modules) : AreTidy modules := by
  cases datum with
  | table entries =>
    obtain ⟨⟨baseUrl, prefixes⟩, _⟩ := checkModuleFields_eq_ok_iff.mp accepted
    exact ⟨field_eq_ok isTrimmed_nil (fun _ _ => checkText_eq_ok) baseUrl,
      field_eq_ok isTidy_empty (fun _ _ => checkTable_eq_ok) prefixes⟩
  | _ => cases accepted

/-- The module settings of an accepted configuration are tidy. -/
theorem load_eq_ok {defaults : Layer} {layers : List Layer} {config : Config}
    (accepted : load defaults layers = .ok config) : AreTidy config.modules := by
  obtain ⟨⟨_, _, modules⟩, _⟩ := check_eq_ok_iff.mp accepted
  exact field_eq_ok ⟨isTrimmed_nil, isTidy_empty⟩ (fun _ _ => checkModules_eq_ok) modules

theorem checkText_text {value : Text} (trimmed : IsTrimmed value) :
    checkText (.text value) = .ok value := by
  rw [checkText, trimmed.stripped_eq]

def textData (pairs : List (Text × Text)) : Layer :=
  pairs.map fun pair => (pair.1, .text pair.2)

theorem checkEntries_textData {pairs : List (Text × Text)} {known : Table Text}
    (trimmed : ∀ pair ∈ pairs, IsTrimmed pair.1 ∧ IsTrimmed pair.2)
    (distinct : (known.names ++ pairs.map (·.1)).Nodup) :
    checkEntries (textData pairs) known = .ok ⟨known.entries ++ pairs⟩ := by
  induction pairs generalizing known with
  | nil =>
    rw [List.append_nil]
    rfl
  | cons pair pairs ih =>
    have fresh : Table.find? pair.1 known.entries = none := Table.find?_eq_none_of_nodup distinct
    have placed : known.put pair.1 pair.2 = ⟨known.entries ++ [pair]⟩ := by
      rw [Table.put, Table.putIn_of_find?_eq_none fresh]
    have here := trimmed pair List.mem_cons_self
    have later : checkEntries (textData pairs) (known.put pair.1 pair.2) =
        .ok ⟨known.entries ++ [pair] ++ pairs⟩ := by
      rw [placed]
      exact ih (fun other mem => trimmed other (List.mem_cons_of_mem _ mem))
        (by simpa [Table.names] using distinct)
    rw [textData, List.map_cons, checkEntries, checkText_text here.2, here.1.stripped_eq]
    simpa [Checked.under, textData] using later

/-- Texts without margins under distinct names are accepted as they are, in their order. -/
theorem checkTable_textData {pairs : List (Text × Text)}
    (trimmed : ∀ pair ∈ pairs, IsTrimmed pair.1 ∧ IsTrimmed pair.2)
    (distinct : (pairs.map (·.1)).Nodup) :
    checkTable (.table (textData pairs)) = .ok ⟨pairs⟩ :=
  checkEntries_textData trimmed distinct

end CommentDocs.Settings
