import CommentDocs.Text.Basic

/-!
# Tables in insertion order

A table binds names to values and lists them in the order in which the names were first
put. Putting a name again replaces its value and keeps its place. Main statements:
`get?_put` says what a look-up sees after a put, `names_put` how the order changes.
-/

namespace CommentDocs

/-- Names bound to values, in the order in which they were first put. -/
structure Table (α : Type u) where
  entries : List (Text × α) := []
  deriving DecidableEq, Repr

namespace Table

variable {α : Type u} {β : Type v}

instance : Inhabited (Table α) := ⟨⟨[]⟩⟩

def find? (name : Text) : List (Text × α) → Option α
  | [] => none
  | (key, value) :: rest => if key = name then some value else find? name rest

/-- The entries once `name` is bound to `value`. -/
def putIn (name : Text) (value : α) : List (Text × α) → List (Text × α)
  | [] => [(name, value)]
  | (key, old) :: rest =>
    if key = name then (key, value) :: rest else (key, old) :: putIn name value rest

def get? (table : Table α) (name : Text) : Option α :=
  find? name table.entries

def contains (table : Table α) (name : Text) : Bool :=
  (table.get? name).isSome

/-- Bind `name` to `value`, in its old place if it has one and at the end otherwise. -/
def put (table : Table α) (name : Text) (value : α) : Table α :=
  ⟨putIn name value table.entries⟩

def erase (table : Table α) (name : Text) : Table α :=
  ⟨table.entries.filter fun entry => entry.1 ≠ name⟩

def names (table : Table α) : List Text :=
  table.entries.map (·.1)

def values (table : Table α) : List α :=
  table.entries.map (·.2)

def size (table : Table α) : Nat :=
  table.entries.length

def putList (table : Table α) (pairs : List (Text × α)) : Table α :=
  pairs.foldl (fun table pair => table.put pair.1 pair.2) table

def ofList (pairs : List (Text × α)) : Table α :=
  putList {} pairs

def putAll (table other : Table α) : Table α :=
  table.putList other.entries

/-- Change every value and keep the names. -/
def map (f : α → β) (table : Table α) : Table β :=
  ⟨table.entries.map fun entry => (entry.1, f entry.2)⟩

theorem find?_putIn (name other : Text) (value : α) (entries : List (Text × α)) :
    find? other (putIn name value entries) =
      if name = other then some value else find? other entries := by
  induction entries with
  | nil => rfl
  | cons entry rest ih =>
    obtain ⟨key, old⟩ := entry
    by_cases h : key = name
    · subst h
      by_cases same : key = other <;> simp [putIn, find?, same]
    · by_cases same : key = other
      · subst same
        simp [putIn, find?, h, Ne.symm h]
      · simp [putIn, find?, h, same, ih]

theorem find?_eq_none_iff {name : Text} {entries : List (Text × α)} :
    find? name entries = none ↔ name ∉ entries.map (·.1) := by
  induction entries with
  | nil => simp [find?]
  | cons entry rest ih =>
    obtain ⟨key, value⟩ := entry
    by_cases h : key = name
    · simp [find?, h]
    · simp [find?, h, ih, Ne.symm h]

theorem find?_eq_none_of_nodup {name : Text} {names : List Text} {entries : List (Text × α)}
    (distinct : (entries.map (·.1) ++ name :: names).Nodup) : find? name entries = none := by
  rw [find?_eq_none_iff]
  exact fun mem => (List.nodup_append.mp distinct).2.2 _ mem _ List.mem_cons_self rfl

/-- Where names are distinct, every entry is found under its name. -/
theorem find?_eq_some_iff_mem {name : Text} {value : α} {entries : List (Text × α)}
    (distinct : (entries.map (·.1)).Nodup) :
    find? name entries = some value ↔ (name, value) ∈ entries := by
  induction entries with
  | nil => simp [find?]
  | cons entry rest ih =>
    obtain ⟨key, first⟩ := entry
    obtain ⟨absent, distinct⟩ := List.nodup_cons.mp distinct
    by_cases h : key = name
    · subst h
      have elsewhere : (key, value) ∉ rest := fun mem =>
        absent (List.mem_map.mpr ⟨_, mem, rfl⟩)
      simp [find?, elsewhere, eq_comm]
    · simp [find?, h, ih distinct, Ne.symm h]

/-- Where names are distinct, their order does not matter to a look-up. -/
theorem find?_of_perm {entries others : List (Text × α)} (perm : entries.Perm others)
    (distinct : (entries.map (·.1)).Nodup) (name : Text) :
    find? name entries = find? name others := by
  have distinct' := (perm.map (·.1)).nodup_iff.mp distinct
  refine Option.ext fun value => ?_
  rw [find?_eq_some_iff_mem distinct, find?_eq_some_iff_mem distinct', perm.mem_iff]

/-- A new name goes to the end. -/
theorem putIn_of_find?_eq_none {name : Text} {entries : List (Text × α)}
    (absent : find? name entries = none) (value : α) :
    putIn name value entries = entries ++ [(name, value)] := by
  induction entries with
  | nil => rfl
  | cons entry rest ih =>
    obtain ⟨key, old⟩ := entry
    by_cases h : key = name
    · simp [find?, h] at absent
    · simp only [find?, h, if_false] at absent
      simp [putIn, h, ih absent]

/-- Binding a name to its own value changes nothing. -/
theorem putIn_of_find?_eq_some {name : Text} {value : α} {entries : List (Text × α)}
    (found : find? name entries = some value) : putIn name value entries = entries := by
  induction entries with
  | nil => cases found
  | cons entry rest ih =>
    obtain ⟨key, old⟩ := entry
    by_cases h : key = name
    · simp only [find?, h, if_true, Option.some.injEq] at found
      simp [putIn, h, found]
    · simp only [find?, h, if_false] at found
      simp [putIn, h, ih found]

section

variable {name : Text} {before : List (Text × α)} (absent : find? name before = none)
include absent

theorem find?_append_cons (value : α) (after : List (Text × α)) :
    find? name (before ++ (name, value) :: after) = some value := by
  induction before with
  | nil => simp [find?]
  | cons entry rest ih =>
    obtain ⟨key, old⟩ := entry
    by_cases h : key = name
    · simp [find?, h] at absent
    · simp only [find?, h, if_false] at absent
      simp [find?, h, ih absent]

/-- A name that is there keeps its place. -/
theorem putIn_append_cons (old new : α) (after : List (Text × α)) :
    putIn name new (before ++ (name, old) :: after) = before ++ (name, new) :: after := by
  induction before with
  | nil => simp [putIn]
  | cons entry rest ih =>
    obtain ⟨key, value⟩ := entry
    by_cases h : key = name
    · simp [find?, h] at absent
    · simp only [find?, h, if_false] at absent
      simp [putIn, h, ih absent]

end

/-- A name that is found splits the entries into those before its first place and those after. -/
theorem entries_eq_of_get? {table : Table α} {name : Text} {value : α}
    (found : table.get? name = some value) :
    ∃ after, table.entries =
      (table.entries.takeWhile fun entry => entry.1 ≠ name) ++ (name, value) :: after := by
  obtain ⟨entries⟩ := table
  simp only [get?] at found ⊢
  induction entries with
  | nil => cases found
  | cons entry rest ih =>
    obtain ⟨key, old⟩ := entry
    by_cases h : key = name
    · subst h
      simp only [find?, if_true, Option.some.injEq] at found
      exact ⟨rest, by simp [found]⟩
    · simp only [find?, h, if_false] at found
      obtain ⟨after, split⟩ := ih found
      exact ⟨after, by simpa [h] using split⟩

/-- A look-up after a put sees the new value under its name and the old table elsewhere. -/
@[simp] theorem get?_put (table : Table α) (name other : Text) (value : α) :
    (table.put name value).get? other = if name = other then some value else table.get? other :=
  find?_putIn name other value table.entries

theorem contains_iff_mem_names (table : Table α) (name : Text) :
    table.contains name = true ↔ name ∈ table.names := by
  obtain ⟨entries⟩ := table
  induction entries with
  | nil => simp [contains, get?, find?, names]
  | cons entry rest ih =>
    obtain ⟨key, old⟩ := entry
    by_cases h : key = name
    · simp [contains, get?, find?, names, h]
    · simp_all [contains, get?, find?, names, Ne.symm h]

/-- A put adds its name at the end, unless the name has a place already. -/
theorem names_put (table : Table α) (name : Text) (value : α) :
    (table.put name value).names =
      if table.contains name then table.names else table.names ++ [name] := by
  obtain ⟨entries⟩ := table
  induction entries with
  | nil => rfl
  | cons entry rest ih =>
    obtain ⟨key, old⟩ := entry
    by_cases h : key = name
    · simp [put, putIn, names, contains, get?, find?, h]
    · simp only [put, names, contains, get?] at ih
      by_cases bound : (find? name rest).isSome <;>
        simp_all [put, putIn, names, contains, get?, find?]

/-- A put keeps the names distinct. -/
theorem nodup_names_put {table : Table α} (distinct : table.names.Nodup) (name : Text) (value : α) :
    (table.put name value).names.Nodup := by
  rw [names_put]
  split
  · exact distinct
  · rename_i absent
    rw [contains_iff_mem_names] at absent
    rw [List.nodup_append]
    refine ⟨distinct, by simp, fun other mem same inside equal => absent ?_⟩
    rwa [← List.mem_singleton.mp inside, ← equal]

/-- A put brings no entry but its own. -/
theorem mem_entries_put {table : Table α} {name : Text} {value : α} {entry : Text × α}
    (mem : entry ∈ (table.put name value).entries) :
    entry = (name, value) ∨ entry ∈ table.entries := by
  obtain ⟨entries⟩ := table
  simp only [put] at mem
  induction entries with
  | nil => exact .inl (List.mem_singleton.mp mem)
  | cons first rest ih =>
    obtain ⟨key, old⟩ := first
    by_cases h : key = name
    · subst h
      simp only [putIn, if_true, List.mem_cons] at mem
      exact mem.imp_right (List.mem_cons_of_mem _)
    · simp only [putIn, h, if_false, List.mem_cons] at mem
      rcases mem with rfl | mem
      · exact .inr List.mem_cons_self
      · exact (ih mem).imp_right (List.mem_cons_of_mem _)

/-- A second put under a name replaces the first. -/
@[simp] theorem put_put (table : Table α) (name : Text) (old new : α) :
    (table.put name old).put name new = table.put name new := by
  obtain ⟨entries⟩ := table
  simp only [put, mk.injEq]
  induction entries with
  | nil => simp [putIn]
  | cons entry rest ih =>
    obtain ⟨key, value⟩ := entry
    by_cases h : key = name <;> simp [putIn, h, ih]

theorem eraseDups_concat (names : List Text) (name : Text) :
    (names ++ [name]).eraseDups =
      if name ∈ names then names.eraseDups else names.eraseDups ++ [name] := by
  rw [List.eraseDups_append]
  by_cases old : name ∈ names <;> simp [old, List.removeAll, List.eraseDups_cons]

theorem nodup_eraseDups (names : List Text) : names.eraseDups.Nodup := by
  obtain ⟨reversed, rfl⟩ : ∃ reversed : List Text, names = reversed.reverse :=
    ⟨names.reverse, names.reverse_reverse.symm⟩
  induction reversed with
  | nil => exact List.nodup_nil
  | cons name names ih =>
    rw [List.reverse_cons, eraseDups_concat]
    split
    · exact ih
    · rename_i absent
      refine List.nodup_append.mpr ⟨ih, by simp, ?_⟩
      rintro old mem _ last rfl
      exact absent (List.mem_singleton.mp last ▸ List.mem_eraseDups.mp mem)

theorem eraseDups_of_nodup {names : List Text} (distinct : names.Nodup) :
    names.eraseDups = names := by
  induction names with
  | nil => rfl
  | cons name rest ih =>
    obtain ⟨absent, distinct⟩ := List.nodup_cons.mp distinct
    have others : rest.filter (fun other => !other == name) = rest := by
      refine List.filter_eq_self.mpr fun other mem => ?_
      simpa using ne_of_mem_of_not_mem mem absent
    rw [List.eraseDups_cons, others, ih distinct]

/-- More names come after those that are there. -/
theorem eraseDups_eraseDups_append (names more : List Text) :
    (names.eraseDups ++ more).eraseDups = (names ++ more).eraseDups := by
  have same : more.removeAll names.eraseDups = more.removeAll names :=
    List.filter_congr fun name _ => by simp
  rw [List.eraseDups_append, List.eraseDups_append,
    eraseDups_of_nodup (nodup_eraseDups names), same]

theorem names_put_eq_eraseDups {table : Table α} (distinct : table.names.Nodup) (name : Text)
    (value : α) : (table.put name value).names = (table.names ++ [name]).eraseDups := by
  rw [names_put, eraseDups_concat, eraseDups_of_nodup distinct]
  simp only [contains_iff_mem_names]

/-- The table that lists `names` in order, each with its value under `f`. -/
def tabulate (names : List Text) (f : Text → α) : Table α :=
  ⟨names.map fun name => (name, f name)⟩

theorem get?_tabulate (names : List Text) (f : Text → α) (name : Text) :
    (tabulate names f).get? name = if name ∈ names then some (f name) else none := by
  induction names with
  | nil => rfl
  | cons first rest ih =>
    by_cases h : first = name
    · simp [tabulate, get?, find?, h]
    · simp only [tabulate, get?, List.map_cons, find?, h, if_false, List.mem_cons,
        Ne.symm h, false_or]
      exact ih

/-- A put under a new name adds it at the end. -/
theorem put_tabulate_of_not_mem {names : List Text} {name : Text} (h : name ∉ names)
    (f g : Text → α) (same : ∀ other ∈ names, g other = f other) :
    (tabulate names f).put name (g name) = tabulate (names ++ [name]) g := by
  simp only [tabulate, put, mk.injEq]
  induction names with
  | nil => rfl
  | cons first rest ih =>
    have ne : first ≠ name := fun eq => h (eq ▸ List.mem_cons_self)
    have tail := ih (fun mem => h (List.mem_cons_of_mem _ mem))
      fun other mem => same other (List.mem_cons_of_mem _ mem)
    simp only [List.map_cons, putIn, ne, if_false, List.cons_append, tail,
      same first List.mem_cons_self]

/-- A put under a name with a place changes the value there. -/
theorem put_tabulate_of_mem {names : List Text} {name : Text} (h : name ∈ names)
    (distinct : names.Nodup) (f g : Text → α)
    (same : ∀ other ∈ names, other ≠ name → g other = f other) :
    (tabulate names f).put name (g name) = tabulate names g := by
  simp only [tabulate, put, mk.injEq]
  induction names with
  | nil => simp at h
  | cons first rest ih =>
    obtain ⟨absent, distinct⟩ := List.nodup_cons.mp distinct
    by_cases here : first = name
    · subst here
      have rest_same : ∀ other ∈ rest, g other = f other := fun other mem =>
        same other (List.mem_cons_of_mem _ mem) fun eq => absent (eq ▸ mem)
      simp only [List.map_cons, putIn, if_true, List.cons.injEq, true_and]
      exact List.map_congr_left fun other mem => by rw [rest_same other mem]
    · have mem : name ∈ rest := (List.mem_cons.mp h).resolve_left (Ne.symm here)
      have tail := ih mem distinct fun other mem => same other (List.mem_cons_of_mem _ mem)
      simp only [List.map_cons, putIn, here, if_false, tail,
        same first List.mem_cons_self here]

end Table

end CommentDocs
