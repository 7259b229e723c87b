import CommentDocs.Proofs.Toml.Statements

/-!
# Written sections fill their tables

The table that a section fills has a place in the tree of the document: whatever is entered below
the section's header changes that table and nothing else. So a header adds an empty table and opens
it, and the pairs that follow fill it in their order, as long as no key comes twice.
-/

namespace CommentDocs.Toml

open Text

namespace Draft

def textValues (pairs : List (Text × Text)) : Entries :=
  pairs.map fun pair => (pair.1, .value (.text pair.2))

@[simp] theorem names_textValues (pairs : List (Text × Text)) :
    (textValues pairs).map (·.1) = pairs.map (·.1) := by
  simp [textValues]

/-- A table has a place in a tree: `shape` gives the tree from the entries of the table, and what
is done or looked up below the header concerns those entries alone. -/
structure IsSection (header : List Text) (shape : Entries → Entries) : Prop where
  enter?_eq : ∀ change old, enter? header change (shape old) = (change old).map shape
  node?_eq : ∀ key old, node? (header ++ [key]) (shape old) = Table.find? key old

theorem isSection_root : IsSection [] id :=
  ⟨fun change old => by rw [enter?, id, Option.map_id_fun, id], fun _ _ => rfl⟩

variable {header : List Text} {shape : Entries → Entries} {old : Entries} {key : Text}

/-- The last of the entries of a table is a table with a place of its own. -/
theorem IsSection.below (inner : IsSection header shape) {before : Entries}
    (absent : Table.find? key before = none) :
    IsSection (key :: header) fun old => before ++ [(key, .table true (shape old))] := by
  refine ⟨fun change old => ?_, fun name old => ?_⟩
  · rw [enter?, Table.find?_append_cons absent]
    simp [inner.enter?_eq, Table.putIn_append_cons absent, Function.comp_def]
  · rw [List.cons_append, node?, Table.find?_append_cons absent]
    · exact inner.node?_eq name old
    · simp

namespace IsSection

variable (place : IsSection header shape) (fresh : Table.find? key old = none)
include place fresh

theorem isClosed_eq : isClosed (header ++ [key]) (shape old) = false := by
  rw [isClosed, place.node?_eq, fresh]

theorem close?_eq :
    close? (header ++ [key]) (shape old) = some (shape (old ++ [(key, .table true [])])) := by
  have made : closeKey? key old = some (old ++ [(key, .table true [])]) := by
    rw [closeKey?, fresh, Table.putIn_of_find?_eq_none fresh]
  rw [close?, List.getLast?_concat, List.dropLast_concat]
  dsimp only
  rw [place.enter?_eq, made, Option.map_some]

theorem bindPath?_eq (datum : Datum) :
    bindPath? (header ++ [key]) datum (shape old) =
      some (shape (old ++ [(key, .value datum)])) := by
  have made : bind? key datum old = some (old ++ [(key, .value datum)]) := by
    rw [bind?, fresh, Table.putIn_of_find?_eq_none fresh]
  rw [bindPath?, List.getLast?_concat, List.dropLast_concat]
  dsimp only
  rw [place.enter?_eq, made, Option.map_some]

end IsSection

end Draft

namespace Document

open Draft

variable {header : List Text} {shape : Entries → Entries} {old : Entries} {key : Text}

/-- A header adds an empty table and opens it. -/
theorem reads_opening (place : IsSection header shape) (fresh : Table.find? key old = none)
    (current : List Text) :
    Reads ⟨shape old, current, []⟩ (headerLine (header ++ [key]))
      ⟨shape (old ++ [(key, .table true [])]), header ++ [key], []⟩ := by
  refine reads_header (by simp) ?_
  have ended : endSection? ⟨shape old, current, []⟩ = some ⟨shape old, current, []⟩ := rfl
  rw [openTable?, ended, Option.bind_eq_bind, Option.bind_some, place.isClosed_eq fresh,
    place.close?_eq fresh]
  rfl

theorem reads_entry (place : IsSection header shape) (fresh : Table.find? key old = none)
    (text : Text) :
    Reads ⟨shape old, header, []⟩ (pairLine key text)
      ⟨shape (old ++ [(key, .value (.text text))]), header, []⟩ := by
  refine reads_pair ?_
  have direct : waypoints header [key] = [] := rfl
  rw [enterPair?, direct, place.bindPath?_eq fresh]
  rfl

/-- Pairs with different keys fill the open table in their order. -/
theorem reads_entries (place : IsSection header shape) {pairs : List (Text × Text)}
    (distinct : (old.map (·.1) ++ pairs.map (·.1)).Nodup) :
    Reads ⟨shape old, header, []⟩ (pairs.flatMap fun pair => pairLine pair.1 pair.2)
      ⟨shape (old ++ textValues pairs), header, []⟩ := by
  induction pairs generalizing old with
  | nil =>
    rw [textValues, List.map_nil, List.append_nil]
    exact Reads.refl _
  | cons pair pairs ih =>
    have fresh : Table.find? pair.1 old = none := Table.find?_eq_none_of_nodup distinct
    have later : Reads ⟨shape (old ++ textValues [pair]), header, []⟩
        (pairs.flatMap fun pair => pairLine pair.1 pair.2)
        ⟨shape (old ++ textValues [pair] ++ textValues pairs), header, []⟩ :=
      ih (by simpa [textValues] using distinct)
    rw [List.append_assoc] at later
    exact (reads_entry place fresh pair.2).append later

end Document

end CommentDocs.Toml
