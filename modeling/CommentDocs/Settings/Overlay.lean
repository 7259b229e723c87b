import CommentDocs.Datum

/-!
# Layers of settings

Settings come in layers, and a later layer wins. Tables are merged key by key, so a layer
spells out only what it changes; anything else is replaced as a whole. A key keeps the
place in which it was first set.
-/

namespace CommentDocs.Settings

/-- A layer of settings: keys with their data, in order. -/
abbrev Layer := List (Text × Datum)

mutual

/-- What a key holds once a layer sets it to a datum. -/
def overlayDatum (current : Option Datum) : Datum → Datum
  | .table entries =>
    match current with
    | some (.table base) => .table (overlay base entries)
    | _ => .table entries
  | datum => datum

/-- A layer with another one on top. -/
def overlay (base : Layer) : Layer → Layer
  | [] => base
  | (key, datum) :: rest =>
    overlay (Table.putIn key (overlayDatum (Table.find? key base) datum) base) rest

end

/-- On top of a layer without any of its keys, a layer is added at the end. -/
theorem overlay_of_distinct {base layer : Layer}
    (distinct : (base.map (·.1) ++ layer.map (·.1)).Nodup) :
    overlay base layer = base ++ layer := by
  induction layer generalizing base with
  | nil => rw [overlay, List.append_nil]
  | cons entry rest ih =>
    obtain ⟨key, datum⟩ := entry
    have fresh : Table.find? key base = none := Table.find?_eq_none_of_nodup distinct
    have same : overlayDatum none datum = datum := by cases datum <;> rfl
    rw [overlay, fresh, same, Table.putIn_of_find?_eq_none fresh, ih (by simpa using distinct),
      List.append_assoc]
    rfl

def merged (bottom : Layer) (layers : List Layer) : Layer :=
  layers.foldl overlay bottom

end CommentDocs.Settings
