import CommentDocs.Settings.Overlay

/-!
# What a stack of layers says

A setting is named by the path of keys that leads to it. Of the layers that set a path the last one
decides, unless a later layer sets something on the way to it. Nothing appears that no layer sets,
the keys of a table stay in the order in which they first came, and a layer that comes twice in a
row says nothing new.

One equation carries this: what a path leads to in a layer on top of another one depends only on
what it leads to in each of the two.
-/

namespace CommentDocs

namespace Datum

def isTable : Datum → Bool
  | .table _ => true
  | _ => false

/-- What a path of keys leads to, through one table after another. -/
def reach? : Datum → List Text → Option Datum
  | datum, [] => some datum
  | .table entries, key :: rest => (Table.find? key entries).bind fun datum => datum.reach? rest
  | _, _ :: _ => none

/-- Whether nothing but tables stands in a datum on the way to the end of a path. -/
def IsOpen (datum : Datum) (path : List Text) : Prop :=
  ∀ above, above <+: path → above ≠ path → ∀ value, datum.reach? above = some value →
    value.isTable = true

mutual

/-- Whether no table has a key twice, however deep it lies in other tables. -/
def isDistinct : Datum → Bool
  | .table entries => areDistinct entries
  | _ => true

/-- Whether no table among the entries has a key twice, nor the entries themselves. -/
def areDistinct : List (Text × Datum) → Bool
  | [] => true
  | (key, datum) :: rest =>
    (Table.find? key rest).isNone && datum.isDistinct && areDistinct rest

end

theorem isDistinct_table {entries : List (Text × Datum)} (distinct : areDistinct entries = true) :
    (table entries).isDistinct = true := distinct

theorem areDistinct_cons {key : Text} {datum : Datum} {rest : List (Text × Datum)} :
    areDistinct ((key, datum) :: rest) = true ↔
      Table.find? key rest = none ∧ datum.isDistinct = true ∧ areDistinct rest = true := by
  simp [areDistinct, and_assoc]

theorem nodup_of_areDistinct {entries : List (Text × Datum)}
    (distinct : areDistinct entries = true) : (entries.map (·.1)).Nodup := by
  induction entries with
  | nil => exact List.nodup_nil
  | cons entry rest ih =>
    obtain ⟨absent, -, distinct⟩ := areDistinct_cons.mp distinct
    exact List.nodup_cons.mpr ⟨Table.find?_eq_none_iff.mp absent, ih distinct⟩

theorem isDistinct_of_find? {entries : List (Text × Datum)} (distinct : areDistinct entries = true)
    {key : Text} {datum : Datum} (found : Table.find? key entries = some datum) :
    datum.isDistinct = true := by
  induction entries with
  | nil => cases found
  | cons entry rest ih =>
    obtain ⟨name, first⟩ := entry
    obtain ⟨-, here, distinct⟩ := areDistinct_cons.mp distinct
    rw [Table.find?] at found
    split at found
    · cases found
      exact here
    · exact ih distinct found

theorem isTable_iff {datum : Datum} : datum.isTable = true ↔ ∃ entries, datum = .table entries := by
  cases datum <;> simp [isTable]

theorem isOpen_nil (datum : Datum) : datum.IsOpen [] :=
  fun _ prior other => absurd (List.prefix_nil.mp prior) other

theorem isOpen_cons_iff {datum : Datum} {key : Text} {rest : List Text} :
    datum.IsOpen (key :: rest) ↔ ∃ entries, datum = .table entries ∧
      ∀ inner, Table.find? key entries = some inner → inner.IsOpen rest := by
  constructor
  · intro isOpen
    obtain ⟨entries, rfl⟩ := isTable_iff.mp
      (isOpen [] List.nil_prefix (List.cons_ne_nil key rest).symm datum rfl)
    refine ⟨entries, rfl, fun inner found above prior other value reached => ?_⟩
    refine isOpen (key :: above) (List.cons_prefix_cons.mpr ⟨rfl, prior⟩) (by simpa using other)
      value ?_
    simpa [reach?, found] using reached
  · rintro ⟨entries, rfl, below⟩ above prior other value reached
    cases above with
    | nil =>
      cases reached
      rfl
    | cons first above =>
      obtain ⟨rfl, further⟩ := List.cons_prefix_cons.mp prior
      obtain ⟨inner, found, reached⟩ := Option.bind_eq_some_iff.mp reached
      exact below inner found above further (by simpa using other) value reached

theorem isDistinct_of_reach? {datum value : Datum} {path : List Text}
    (distinct : datum.isDistinct = true) (reached : datum.reach? path = some value) :
    value.isDistinct = true := by
  induction path generalizing datum with
  | nil =>
    cases reached
    exact distinct
  | cons key rest ih =>
    cases datum with
    | table entries =>
      obtain ⟨inner, found, reached⟩ := Option.bind_eq_some_iff.mp reached
      exact ih (isDistinct_of_find? distinct found) reached
    | _ => cases reached

/-- A path that leads somewhere leads through tables. -/
theorem isOpen_of_reach? {datum value : Datum} {path : List Text}
    (reached : datum.reach? path = some value) : datum.IsOpen path := by
  induction path generalizing datum with
  | nil => exact isOpen_nil datum
  | cons key rest ih =>
    cases datum with
    | table entries =>
      obtain ⟨inner, found, reached⟩ := Option.bind_eq_some_iff.mp reached
      refine isOpen_cons_iff.mpr ⟨entries, rfl, fun other again => ?_⟩
      obtain rfl : inner = other := by simpa [found] using again
      exact ih reached
    | _ => cases reached

end Datum

namespace Settings

open Datum

theorem overlayDatum_table (base entries : Layer) :
    overlayDatum (some (.table base)) (.table entries) = .table (overlay base entries) := by
  rw [overlayDatum]

/-- Where there is no table, every datum is set as it is. -/
theorem overlayDatum_of_no_table {current : Option Datum}
    (noTable : ¬∃ base, current = some (.table base)) (datum : Datum) :
    overlayDatum current datum = datum := by
  cases datum with
  | table entries => exact overlayDatum.eq_2 current entries fun base same => noTable ⟨base, same⟩
  | _ => rfl

/-- A key of the upper layer is laid over what the lower one has for it; any other key is kept. -/
theorem find?_overlay {layer : Layer} (distinct : (layer.map (·.1)).Nodup) (base : Layer)
    (key : Text) :
    Table.find? key (overlay base layer) =
      ((Table.find? key layer).map (overlayDatum (Table.find? key base))).or
        (Table.find? key base) := by
  induction layer generalizing base with
  | nil => rfl
  | cons entry rest ih =>
    obtain ⟨name, datum⟩ := entry
    obtain ⟨absent, distinct⟩ := List.nodup_cons.mp distinct
    rw [overlay, ih distinct, Table.find?_putIn, Table.find?]
    by_cases same : name = key
    · subst same
      simp [Table.find?_eq_none_iff.mpr absent]
    · simp [same]

/-- New keys come after the old ones, in their order. -/
theorem names_overlay {base : Layer} (distinct : (base.map (·.1)).Nodup) (layer : Layer) :
    (overlay base layer).map (·.1) = (base.map (·.1) ++ layer.map (·.1)).eraseDups := by
  induction layer generalizing base with
  | nil => rw [overlay, List.map_nil, List.append_nil, Table.eraseDups_of_nodup distinct]
  | cons entry rest ih =>
    obtain ⟨name, datum⟩ := entry
    have placed (value : Datum) : (Table.putIn name value base).map (·.1) =
        (base.map (·.1) ++ [name]).eraseDups :=
      @Table.names_put_eq_eraseDups _ ⟨base⟩ distinct name value
    rw [overlay, ih (placed _ ▸ Table.nodup_eraseDups _), placed,
      Table.eraseDups_eraseDups_append, List.append_assoc]
    rfl

theorem areDistinct_putIn {entries : Layer} (distinct : areDistinct entries = true) {datum : Datum}
    (here : datum.isDistinct = true) (key : Text) :
    areDistinct (Table.putIn key datum entries) = true := by
  induction entries with
  | nil => simp [Table.putIn, areDistinct, Table.find?, here]
  | cons entry rest ih =>
    obtain ⟨name, old⟩ := entry
    obtain ⟨absent, first, distinct⟩ := areDistinct_cons.mp distinct
    by_cases same : name = key
    · simpa [Table.putIn, same, areDistinct_cons, here, distinct] using same ▸ absent
    · have apart : Table.find? name (Table.putIn key datum rest) = none := by
        rw [Table.find?_putIn, if_neg (Ne.symm same), absent]
      simp [Table.putIn, same, areDistinct_cons, apart, first, ih distinct]

mutual

/-- A table on top of another one has no key twice if neither of them has. -/
theorem isDistinct_overlayDatum : ∀ (datum : Datum) (current : Option Datum),
    datum.isDistinct = true → (∀ below ∈ current, below.isDistinct = true) →
    (overlayDatum current datum).isDistinct = true
  | .table entries, current, here, below => by
    by_cases merged : ∃ base, current = some (.table base)
    · obtain ⟨base, rfl⟩ := merged
      rw [overlayDatum_table]
      exact areDistinct_overlay entries base here (below _ rfl)
    · rw [overlayDatum_of_no_table merged]
      exact here
  | .null, _, _, _ | .boolean _, _, _, _ | .integer _, _, _, _ | .real _, _, _, _
  | .moment _, _, _, _ | .text _, _, _, _ | .array _, _, _, _ => rfl

theorem areDistinct_overlay : ∀ layer base : Layer, areDistinct layer = true →
    areDistinct base = true → areDistinct (overlay base layer) = true
  | [], _, _, below => below
  | (key, datum) :: rest, base, distinct, below => by
    obtain ⟨-, here, distinct⟩ := areDistinct_cons.mp distinct
    have laid := isDistinct_overlayDatum datum (Table.find? key base) here
      fun old found => isDistinct_of_find? below found
    exact areDistinct_overlay rest _ distinct (areDistinct_putIn below laid key)

end

mutual

theorem overlayDatum_overlayDatum : ∀ (datum : Datum) (current : Option Datum),
    datum.isDistinct = true →
    overlayDatum (some (overlayDatum current datum)) datum = overlayDatum current datum
  | .table entries, current, distinct => by
    by_cases merged : ∃ base, current = some (.table base)
    · obtain ⟨base, rfl⟩ := merged
      rw [overlayDatum_table, overlayDatum_table, overlay_overlay entries base distinct]
    · have fresh : overlay [] entries = entries :=
        overlay_of_distinct (nodup_of_areDistinct distinct)
      have again := overlay_overlay entries [] distinct
      rw [fresh] at again
      rw [overlayDatum_of_no_table merged, overlayDatum_table, again]
  | .null, _, _ | .boolean _, _, _ | .integer _, _, _ | .real _, _, _ | .moment _, _, _
  | .text _, _, _ | .array _, _, _ => rfl

theorem overlay_overlay : ∀ layer base : Layer, areDistinct layer = true →
    overlay (overlay base layer) layer = overlay base layer
  | [], _, _ => rfl
  | (key, datum) :: rest, base, distinct => by
    obtain ⟨absent, here, distinct⟩ := areDistinct_cons.mp distinct
    obtain ⟨first, set⟩ : ∃ first,
        first = Table.putIn key (overlayDatum (Table.find? key base) datum) base := ⟨_, rfl⟩
    have once : overlay base ((key, datum) :: rest) = overlay first rest := by rw [overlay, set]
    -- The rest of the layer does not touch `key`, so setting it again changes nothing.
    have kept : Table.find? key (overlay first rest) =
        some (overlayDatum (Table.find? key base) datum) := by
      rw [find?_overlay (nodup_of_areDistinct distinct), absent, set, Table.find?_putIn]
      simp
    rw [once, overlay, kept, overlayDatum_overlayDatum datum _ here,
      Table.putIn_of_find?_eq_some kept, overlay_overlay rest first distinct]

end

/-- Below what is no table, a path leads nowhere. -/
theorem bind_reach?_of_no_table {current : Option Datum}
    (noTable : ¬∃ base, current = some (.table base)) (key : Text) (rest : List Text) :
    (current.bind fun datum => datum.reach? (key :: rest)) = none := by
  cases current with
  | none => rfl
  | some datum =>
    cases datum with
    | table base => exact absurd ⟨base, rfl⟩ noTable
    | _ => rfl

/-- What a path leads to in a datum that is laid over another one depends only on what it leads to
in each of them, if the upper one is open to the path. -/
theorem reach?_overlayDatum {datum : Datum} {path : List Text} (distinct : datum.isDistinct = true)
    (isOpen : datum.IsOpen path) (current : Option Datum) :
    (overlayDatum current datum).reach? path =
      ((datum.reach? path).map (overlayDatum (current.bind fun below => below.reach? path))).or
        (current.bind fun below => below.reach? path) := by
  induction path generalizing datum current with
  | nil => simp [reach?]
  | cons key rest ih =>
    obtain ⟨entries, rfl, below⟩ := isOpen_cons_iff.mp isOpen
    by_cases merged : ∃ base, current = some (.table base)
    · obtain ⟨base, rfl⟩ := merged
      rw [overlayDatum_table, reach?, find?_overlay (nodup_of_areDistinct distinct)]
      cases found : Table.find? key entries with
      | none => simp [reach?, found]
      | some inner =>
        simpa [reach?, found] using
          ih (isDistinct_of_find? distinct found) (below inner found) (Table.find? key base)
    · have same : overlayDatum none = id := funext fun datum =>
        overlayDatum_of_no_table (by simp) datum
      rw [overlayDatum_of_no_table merged, bind_reach?_of_no_table merged, same]
      simp

/-- A path that leads nowhere in either of two data leads nowhere in one laid over the other. -/
theorem reach?_overlayDatum_eq_none {datum : Datum} {path : List Text}
    (distinct : datum.isDistinct = true) (unset : datum.reach? path = none)
    {current : Option Datum} (below : (current.bind fun datum => datum.reach? path) = none) :
    (overlayDatum current datum).reach? path = none := by
  induction path generalizing datum current with
  | nil => cases unset
  | cons key rest ih =>
    by_cases merged : ∃ base, current = some (.table base)
    · obtain ⟨base, rfl⟩ := merged
      cases datum with
      | table entries =>
        rw [overlayDatum_table, reach?, find?_overlay (nodup_of_areDistinct distinct)]
        cases found : Table.find? key entries with
        | none => simpa [reach?] using below
        | some inner =>
          have inside : inner.reach? rest = none := by simpa [reach?, found] using unset
          simpa using ih (isDistinct_of_find? distinct found) inside (by simpa [reach?] using below)
      | _ => rfl
    · rw [overlayDatum_of_no_table merged, unset]

def valueAt? (layer : Layer) (path : List Text) : Option Datum :=
  (Datum.table layer).reach? path

def keysAt (layer : Layer) (path : List Text) : List Text :=
  match valueAt? layer path with
  | some (.table entries) => entries.map (·.1)
  | _ => []

/-- A layer that sets nothing at the end of a path, and nothing but tables on the way. -/
structure Leaves (layer : Layer) (path : List Text) : Prop where
  unset : valueAt? layer path = none
  isOpen : (Datum.table layer).IsOpen path

/-- A layer that sets nothing but tables on a path, its end included. -/
structure KeepsTable (layer : Layer) (path : List Text) : Prop where
  isTable : ∀ value, valueAt? layer path = some value → value.isTable = true
  isOpen : (Datum.table layer).IsOpen path

theorem nodup_keysAt {layer : Layer} (distinct : areDistinct layer = true) (path : List Text) :
    (keysAt layer path).Nodup := by
  unfold keysAt
  split
  · rename_i entries reached
    exact nodup_of_areDistinct (isDistinct_of_reach? (isDistinct_table distinct) reached)
  · exact List.nodup_nil

section Step

variable {base layer : Layer} {path : List Text} (distinct : areDistinct layer = true)
include distinct

theorem valueAt?_overlay (isOpen : (Datum.table layer).IsOpen path) :
    valueAt? (overlay base layer) path =
      ((valueAt? layer path).map (overlayDatum (valueAt? base path))).or (valueAt? base path) := by
  have step := reach?_overlayDatum (isDistinct_table distinct) isOpen (some (.table base))
  rwa [overlayDatum_table] at step

theorem valueAt?_overlay_of_set {value : Datum} (set : valueAt? layer path = some value)
    (plain : value.isTable = false) : valueAt? (overlay base layer) path = some value := by
  have placed : overlayDatum (valueAt? base path) value = value := by
    cases value with
    | table entries => cases plain
    | _ => rfl
  rw [valueAt?_overlay distinct (isOpen_of_reach? set), set, Option.map_some, placed,
    Option.some_or]

theorem valueAt?_overlay_of_leaves (leaves : Leaves layer path) :
    valueAt? (overlay base layer) path = valueAt? base path := by
  rw [valueAt?_overlay distinct leaves.isOpen, leaves.unset, Option.map_none, Option.none_or]

theorem valueAt?_overlay_eq_none (unset : valueAt? layer path = none)
    (below : valueAt? base path = none) : valueAt? (overlay base layer) path = none := by
  have step : (overlayDatum (some (.table base)) (.table layer)).reach? path = none :=
    reach?_overlayDatum_eq_none (isDistinct_table distinct) unset below
  rwa [overlayDatum_table] at step

/-- On a table that is kept, new keys come after the old ones. -/
theorem keysAt_overlay (below : areDistinct base = true) (keeps : KeepsTable layer path) :
    keysAt (overlay base layer) path = (keysAt base path ++ keysAt layer path).eraseDups := by
  have old := nodup_keysAt below path
  cases set : valueAt? layer path with
  | none =>
    have same : valueAt? (overlay base layer) path = valueAt? base path :=
      valueAt?_overlay_of_leaves distinct ⟨set, keeps.isOpen⟩
    have unsaid : keysAt layer path = [] := by simp [keysAt, set]
    rw [unsaid, List.append_nil, Table.eraseDups_of_nodup old, keysAt, same, keysAt]
  | some value =>
    obtain ⟨entries, rfl⟩ := isTable_iff.mp (keeps.isTable value set)
    have laid : valueAt? (overlay base layer) path = _ :=
      valueAt?_overlay distinct keeps.isOpen
    rw [set, Option.map_some, Option.some_or] at laid
    have said : keysAt layer path = entries.map (·.1) := by simp [keysAt, set]
    by_cases merged : ∃ first, valueAt? base path = some (.table first)
    · obtain ⟨first, found⟩ := merged
      have known : keysAt base path = first.map (·.1) := by simp [keysAt, found]
      rw [found, overlayDatum_table] at laid
      rw [known] at old
      rw [keysAt, laid, known, said]
      exact names_overlay old entries
    · have unknown : keysAt base path = [] := by
        unfold keysAt
        split
        · rename_i first found
          exact absurd ⟨first, found⟩ merged
        · rfl
      rw [overlayDatum_of_no_table merged] at laid
      rw [unknown, List.nil_append, Table.eraseDups_of_nodup (nodup_keysAt distinct path), said,
        keysAt, laid]

end Step

theorem merged_cons (bottom layer : Layer) (layers : List Layer) :
    merged bottom (layer :: layers) = merged (overlay bottom layer) layers := rfl

theorem merged_append (bottom : Layer) (layers others : List Layer) :
    merged bottom (layers ++ others) = merged (merged bottom layers) others :=
  List.foldl_append

/-- The layer at the bottom is one of the layers. -/
theorem merged_eq_merged_cons {bottom : Layer} (distinct : areDistinct bottom = true)
    (layers : List Layer) : merged bottom layers = merged [] (bottom :: layers) := by
  have alone : overlay [] bottom = bottom := overlay_of_distinct (nodup_of_areDistinct distinct)
  rw [merged_cons, alone]

section Run

variable {layers : List Layer} {path : List Text}
variable (distinct : ∀ layer ∈ layers, areDistinct layer = true)
include distinct

theorem areDistinct_merged {bottom : Layer} (below : areDistinct bottom = true) :
    areDistinct (merged bottom layers) = true := by
  induction layers generalizing bottom with
  | nil => exact below
  | cons layer rest ih =>
    obtain ⟨here, distinct⟩ := List.forall_mem_cons.mp distinct
    exact ih distinct (areDistinct_overlay layer bottom here below)

theorem valueAt?_merged_of_leaves (leave : ∀ layer ∈ layers, Leaves layer path) (bottom : Layer) :
    valueAt? (merged bottom layers) path = valueAt? bottom path := by
  induction layers generalizing bottom with
  | nil => rfl
  | cons layer rest ih =>
    obtain ⟨here, distinct⟩ := List.forall_mem_cons.mp distinct
    obtain ⟨leaves, leave⟩ := List.forall_mem_cons.mp leave
    rw [merged_cons, ih distinct leave, valueAt?_overlay_of_leaves here leaves]

theorem valueAt?_merged_eq_none (unset : ∀ layer ∈ layers, valueAt? layer path = none)
    {bottom : Layer} (below : valueAt? bottom path = none) :
    valueAt? (merged bottom layers) path = none := by
  induction layers generalizing bottom with
  | nil => exact below
  | cons layer rest ih =>
    obtain ⟨here, distinct⟩ := List.forall_mem_cons.mp distinct
    obtain ⟨first, unset⟩ := List.forall_mem_cons.mp unset
    exact ih distinct unset (valueAt?_overlay_eq_none here first below)

/-- While a table is kept, its keys stand in the order in which they first came. -/
theorem keysAt_merged (keep : ∀ layer ∈ layers, KeepsTable layer path) {bottom : Layer}
    (below : areDistinct bottom = true) :
    keysAt (merged bottom layers) path =
      (keysAt bottom path ++ layers.flatMap fun layer => keysAt layer path).eraseDups := by
  induction layers generalizing bottom with
  | nil =>
    rw [List.flatMap_nil, List.append_nil, Table.eraseDups_of_nodup (nodup_keysAt below path)]
    rfl
  | cons layer rest ih =>
    obtain ⟨here, distinct⟩ := List.forall_mem_cons.mp distinct
    obtain ⟨keeps, keep⟩ := List.forall_mem_cons.mp keep
    rw [merged_cons, ih distinct keep (areDistinct_overlay layer bottom here below),
      keysAt_overlay here below keeps, Table.eraseDups_eraseDups_append, List.append_assoc,
      List.flatMap_cons]

end Run

/-- What a stack of layers says, for layers in which no table has a key twice: the last layer that
sets a path decides, if the later ones leave it; a path that no layer sets is not there; the keys of
a table keep their places as long as it is kept, and new ones come after them in the order in which
they are first set; a layer that comes twice in a row counts once. -/
theorem merged_precedence {bottom : Layer} {layers : List Layer}
    (distinct : ∀ layer ∈ bottom :: layers, areDistinct layer = true) :
    (∀ earlier layer later path value, bottom :: layers = earlier ++ layer :: later →
        valueAt? layer path = some value → value.isTable = false →
        (∀ other ∈ later, Leaves other path) →
        valueAt? (merged bottom layers) path = some value) ∧
      (∀ path, (∀ layer ∈ bottom :: layers, valueAt? layer path = none) →
        valueAt? (merged bottom layers) path = none) ∧
      (∀ earlier later path, layers = earlier ++ later →
        (∀ other ∈ later, KeepsTable other path) →
        keysAt (merged bottom earlier) path <+: keysAt (merged bottom layers) path ∧
          keysAt (merged bottom layers) path = (keysAt (merged bottom earlier) path ++
            later.flatMap fun other => keysAt other path).eraseDups) ∧
      ∀ earlier layer later, layers = earlier ++ layer :: later →
        merged bottom (earlier ++ layer :: layer :: later) = merged bottom layers := by
  obtain ⟨below, above⟩ := List.forall_mem_cons.mp distinct
  refine ⟨?decided, ?absent, ?placed, ?repeated⟩
  case decided =>
    intro earlier layer later path value stack set plain leave
    have whole : ∀ other ∈ earlier ++ layer :: later, areDistinct other = true := stack ▸ distinct
    have here : areDistinct layer = true := whole layer (by simp)
    rw [merged_eq_merged_cons below, stack, merged_append, merged_cons,
      valueAt?_merged_of_leaves (fun other mem => whole other (by simp [mem])) leave,
      valueAt?_overlay_of_set here set plain]
  case absent =>
    intro path unset
    obtain ⟨first, unset⟩ := List.forall_mem_cons.mp unset
    exact valueAt?_merged_eq_none above unset first
  case placed =>
    rintro earlier later path rfl keep
    obtain ⟨lower, upper⟩ := List.forall_mem_append.mp above
    have sound := areDistinct_merged lower below
    rw [merged_append, keysAt_merged upper keep sound]
    refine ⟨?_, rfl⟩
    rw [List.eraseDups_append, Table.eraseDups_of_nodup (nodup_keysAt sound path)]
    exact List.prefix_append _ _
  case repeated =>
    rintro earlier layer later rfl
    have here : areDistinct layer = true := above layer (by simp)
    rw [merged_append, merged_append, merged_cons, merged_cons, merged_cons,
      overlay_overlay layer _ here]

/-- A table is replaced by a number and the number by another table, which the last layer keeps. -/
theorem merged_precedence_replaced :
    let below : Layer :=
      [(['a'], .table [(['x'], .integer 1), (['y'], .table [(['z'], .text ['o', 'l', 'd'])])])]
    let number : Layer := [(['b'], .null), (['a'], .table [(['y'], .integer 5)])]
    let table : Layer := [(['a'], .table [(['w'], .null), (['y'], .table [(['z'], .integer 7)])])]
    let last : Layer := [(['c'], .null), (['a'], .table [(['y'], .table [(['v'], .integer 8)])])]
    (∀ layer ∈ [below, number, table, last], areDistinct layer = true) ∧
      valueAt? (merged below [number, table, last]) [['a'], ['y'], ['z']] = some (.integer 7) ∧
      valueAt? (merged below [number, table, last]) [['a'], ['y'], ['x']] = none ∧
      keysAt (merged below [number, table, last]) [['a'], ['y']] = [['z'], ['v']] ∧
      merged below [number, table, last, last] = merged below [number, table, last] := by
  intro below number table last
  have distinct : ∀ layer ∈ [below, number, table, last], areDistinct layer = true := by decide
  obtain ⟨decided, absent, placed, repeated⟩ := merged_precedence distinct
  have leaves : Leaves last [['a'], ['y'], ['z']] :=
    ⟨rfl, by simp [last, isOpen_cons_iff, isOpen_nil, Table.find?]⟩
  have keeps : KeepsTable last [['a'], ['y']] :=
    ⟨by simp [last, valueAt?, reach?, Table.find?, isTable], isOpen_of_reach? (by rfl)⟩
  refine ⟨distinct, ?_, ?_, ?_, ?_⟩
  · exact decided [below, number] table [last] _ _ rfl rfl rfl (by simpa using leaves)
  · exact absent _ (by decide)
  · obtain ⟨-, keys⟩ := placed [number, table] [last] [['a'], ['y']] rfl (by simpa using keeps)
    exact keys
  · exact repeated [number, table] last [] rfl

end Settings

end CommentDocs
