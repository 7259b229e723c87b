import CommentDocs.Proofs.Graph.Views
import CommentDocs.Proofs.Outline.Rows
import Mathlib.Data.List.Basic

/-!
# Outlines as unfoldings of the property graph

Seen from a value, the property graph unfolds into its trails: the ways that lead on from it
from property to property. They may go round in circles and they may meet. An outline lists
the trails in order, depth first, and leaves out those that go on where it stops: behind a
value that the trail has passed before, and behind `maxDepth` properties. Which trails are
listed, and below which of them anything is, is said here of a trail as a whole
(`rows_eq_outlineRows_iff`), while an outline finds out on the way down.
-/

namespace CommentDocs

open Markup Outline

variable {δ : Type}

/-- The properties that lead from one value to another: the name of each and its value. -/
abbrev Trail := List (Text × ValueId)

namespace Trail

/-- The values on a trail, from the one that it starts from to the one that it leads to. -/
def passed (start : ValueId) (trail : Trail) : List ValueId :=
  start :: trail.map (·.2)

def goal (start : ValueId) (trail : Trail) : ValueId :=
  (trail.getLast?.map (·.2)).getD start

/-- No value comes twice before the last one. -/
def IsListed (start : ValueId) (trail : Trail) : Prop :=
  (passed start trail).dropLast.Nodup

/-- Not even the last value has come before, and more properties may follow. -/
def IsUnfolded (start : ValueId) (trail : Trail) : Prop :=
  (passed start trail).Nodup ∧ trail.length < maxDepth

instance (start : ValueId) (trail : Trail) : Decidable (IsListed start trail) :=
  inferInstanceAs (Decidable (List.Nodup _))

instance (start : ValueId) (trail : Trail) : Decidable (IsUnfolded start trail) :=
  inferInstanceAs (Decidable (_ ∧ _))

end Trail

namespace Store

/-- Every step of a trail is a property of the value that it starts from. -/
def HasTrail (store : Store δ) : ValueId → Trail → Prop
  | _, [] => True
  | id, step :: trail => step ∈ (store.propertiesOf id).entries ∧ store.HasTrail step.2 trail

/-- The trails of at most `length` properties from a value. A trail comes before those that go
on from it, and these come in the order of the properties. -/
def trails (store : Store δ) : (length : Nat) → ValueId → List Trail
  | 0, _ => [[]]
  | length + 1, id =>
    [] :: (store.propertiesOf id).entries.flatMap fun step =>
      (store.trails length step.2).map (step :: ·)

/-- What is listed of a value besides its properties: its tags, its parameters and its first
return. -/
def detailLabels (store : Store δ) (id : ValueId) : List Text :=
  match store.value? id with
  | none => []
  | some value =>
    value.doc.tags.map (fun tag => marked "magenta" "tag" (escape tag)) ++
    value.parameters.entries.map (fun parameter =>
      marked "green" "param" (store.labelOf parameter.1 parameter.2)) ++
    (value.returns.take 1).map fun returned =>
      marked "yellow" "returns" (store.labelOf [] returned)

/-- The label at the end of a trail from a value that is labelled `top` itself. -/
def labelAt (store : Store δ) (top : Text) (trail : Trail) : Text :=
  (trail.getLast?.map fun step => store.labelOf step.1 step.2).getD top

/-- The rows of an unfolded value at the top of an outline, which is labelled `top`. -/
def unfoldedRows (store : Store δ) (top : Text) (id : ValueId) : List Row :=
  ((store.trails maxDepth id).filter fun trail => trail.IsListed id).flatMap fun trail =>
    ⟨trail.length + 1, store.labelAt top trail⟩ ::
      if trail.IsUnfolded id then
        (store.detailLabels (trail.goal id)).map fun label => ⟨trail.length + 2, label⟩
      else []

variable (store : Store δ)

theorem mem_trails_iff {length : Nat} {id : ValueId} {trail : Trail} :
    trail ∈ store.trails length id ↔ store.HasTrail id trail ∧ trail.length ≤ length := by
  induction length generalizing id trail with
  | zero => cases trail <;> simp [trails, HasTrail]
  | succ length ih =>
    cases trail with
    | nil => simp [trails, HasTrail]
    | cons step trail =>
      simp only [trails, List.mem_cons, List.mem_flatMap, List.mem_map, List.cons.injEq, HasTrail,
        List.length_cons, Nat.add_le_add_iff_right, reduceCtorEq, false_or]
      constructor
      · rintro ⟨first, property, rest, mem, rfl, rfl⟩
        obtain ⟨leads, short⟩ := ih.mp mem
        exact ⟨⟨property, leads⟩, short⟩
      · rintro ⟨⟨property, leads⟩, short⟩
        exact ⟨step, property, trail, ih.mpr ⟨leads, short⟩, rfl, rfl⟩

/-- Values that differ from each other and from those that were passed before. -/
def Avoids (before values : List ValueId) : Prop :=
  values.Nodup ∧ ∀ id ∈ values, id ∉ before

instance (before values : List ValueId) : Decidable (Avoids before values) :=
  inferInstanceAs (Decidable (_ ∧ _))

theorem avoids_cons {before values : List ValueId} {id : ValueId} :
    Avoids before (id :: values) ↔ id ∉ before ∧ Avoids (id :: before) values := by
  simp only [Avoids, List.nodup_cons, List.mem_cons, forall_eq_or_imp, not_or]
  constructor
  · rintro ⟨⟨new, distinct⟩, outside, others⟩
    refine ⟨outside, distinct, ?_⟩
    intro other mem
    exact ⟨fun same => new (same ▸ mem), others other mem⟩
  · rintro ⟨outside, distinct, others⟩
    exact ⟨⟨fun mem => (others id mem).1 rfl, distinct⟩, outside,
      fun other mem => (others other mem).2⟩

theorem avoids_nil {values : List ValueId} : Avoids [] values ↔ values.Nodup := by
  simp [Avoids]

/-- The rows for one trail, below the values on `path` and with `room` more properties to come. -/
def trailRows (depth room : Nat) (path : List ValueId) (top : Text) (id : ValueId)
    (trail : Trail) : List Row :=
  ⟨depth + trail.length, store.labelAt top trail⟩ ::
    if Avoids path (trail.passed id) ∧ trail.length < room then
      (store.detailLabels (trail.goal id)).map fun label => ⟨depth + trail.length + 1, label⟩
    else []

theorem rowsAll_details {id : ValueId} {value : Value δ} (found : store.value? id = some value)
    (depth : Nat) :
    rowsAll depth (store.details value) =
      (store.detailLabels id).map fun label => ⟨depth, label⟩ := by
  have leaves : store.details value = (store.detailLabels id).map leaf := by
    simp only [details, detailLabels, found, List.map_append, List.map_map, Function.comp_def]
  rw [leaves, rowsAll_map_leaf]

variable {store} {depth room : Nat} {path : List ValueId} {top : Text} {id : ValueId}

/-- Behind the first property a trail looks as it does from that property's value. -/
theorem trailRows_cons (outside : id ∉ path) (step : Text × ValueId) (trail : Trail) :
    store.trailRows depth (room + 1) path top id (step :: trail) =
      store.trailRows (depth + 1) room (id :: path) (store.labelOf step.1 step.2) step.2 trail := by
  have passed : Avoids path (Trail.passed id (step :: trail)) ↔
      Avoids (id :: path) (trail.passed step.2) := by
    have split : Trail.passed id (step :: trail) = id :: trail.passed step.2 := rfl
    rw [split, avoids_cons]
    exact and_iff_right outside
  have label : store.labelAt top (step :: trail) =
      store.labelAt (store.labelOf step.1 step.2) trail := by
    unfold labelAt
    cases trail with
    | nil => rfl
    | cons next trail => rw [List.getLast?_cons_cons, List.getLast?_cons]; rfl
  have goal : Trail.goal id (step :: trail) = trail.goal step.2 := by
    unfold Trail.goal
    cases trail with
    | nil => rfl
    | cons next trail => rw [List.getLast?_cons_cons, List.getLast?_cons]; rfl
  have deeper : depth + (trail.length + 1) = depth + 1 + trail.length := by omega
  simp only [trailRows, passed, label, goal, List.length_cons, deeper, Nat.add_lt_add_iff_right]

theorem dropLast_passed_cons (step : Text × ValueId) (trail : Trail) :
    (Trail.passed id (step :: trail)).dropLast = id :: (trail.passed step.2).dropLast := rfl

/-- Below a value that was passed before nothing is listed. -/
theorem filter_trails_of_mem (seen : id ∈ path) (length : Nat) :
    (store.trails length id).filter (fun trail => Avoids path (trail.passed id).dropLast) =
      [[]] := by
  have late (step : Text × ValueId) (trail : Trail) :
      ¬ Avoids path (Trail.passed id (step :: trail)).dropLast := by
    rw [dropLast_passed_cons, avoids_cons]
    exact fun listed => listed.1 seen
  cases length with
  | zero => rfl
  | succ length =>
    have none : ((store.propertiesOf id).entries.flatMap fun step =>
        (store.trails length step.2).map (step :: ·)).filter
          (fun trail => Avoids path (Trail.passed id trail).dropLast) = [] := by
      rw [List.filter_eq_nil_iff]
      intro trail mem
      obtain ⟨step, _, mem⟩ := List.mem_flatMap.mp mem
      obtain ⟨rest, _, rfl⟩ := List.mem_map.mp mem
      simpa using late step rest
    rw [trails, List.filter_cons_of_pos rfl, none]

/-- Below any other value, each property starts trails of its own. -/
theorem filter_trails_of_not_mem (outside : id ∉ path) (length : Nat) :
    (store.trails (length + 1) id).filter (fun trail => Avoids path (trail.passed id).dropLast) =
      [] :: (store.propertiesOf id).entries.flatMap fun step =>
        ((store.trails length step.2).filter
          fun trail => Avoids (id :: path) (trail.passed step.2).dropLast).map (step :: ·) := by
  have later (step : Text × ValueId) (trail : Trail) :
      Avoids path (Trail.passed id (step :: trail)).dropLast ↔
        Avoids (id :: path) (trail.passed step.2).dropLast := by
    rw [dropLast_passed_cons, avoids_cons]
    exact and_iff_right outside
  rw [trails, List.filter_cons_of_pos rfl, List.filter_flatMap]
  simp only [List.filter_map, Function.comp_def, later]

/-- The rows below a value are those of its trails. The induction is on the properties that may
still come; the trails behind a property are those of its value, with one value more on the
path. -/
theorem rows_unfold (depth room : Nat) (path : List ValueId) (top : Text) (id : ValueId) :
    rows depth (.node top (store.unfold room path id)) =
      ((store.trails room id).filter fun trail => Avoids path (trail.passed id).dropLast).flatMap
        (store.trailRows depth room path top id) := by
  induction room generalizing depth path top id with
  | zero =>
    have cut : ¬ (Avoids path (Trail.passed id []) ∧ ([] : Trail).length < 0) := fun both =>
      Nat.not_lt_zero _ both.2
    have listed : (store.trails 0 id).filter
        (fun trail => Avoids path (trail.passed id).dropLast) = [[]] := rfl
    rw [listed, List.flatMap_singleton, trailRows, if_neg cut]
    rfl
  | succ room ih =>
    by_cases seen : id ∈ path
    · have cut : ¬ (Avoids path (Trail.passed id []) ∧ ([] : Trail).length < room + 1) := by
        rintro ⟨outside, _⟩
        exact (avoids_cons.mp outside).1 seen
      have stops : store.unfold (room + 1) path id = [] := by
        rw [unfold, if_pos (by simpa using seen)]
      rw [filter_trails_of_mem seen, List.flatMap_singleton, trailRows, if_neg cut, stops]
      rfl
    · have unfolds : Avoids path (Trail.passed id []) ∧ ([] : Trail).length < room + 1 :=
        ⟨avoids_cons.mpr ⟨seen, List.nodup_nil, fun _ mem => nomatch mem⟩, Nat.succ_pos room⟩
      have below : store.unfold (room + 1) path id =
          ((store.value? id).map store.details).getD [] ++
            (store.propertiesOf id).entries.map fun step =>
              .node (store.labelOf step.1 step.2) (store.unfold room (id :: path) step.2) := by
        rw [unfold, if_neg (by simpa using seen), propertiesOf]
        cases store.value? id <;> rfl
      have details : rowsAll (depth + 1) (((store.value? id).map store.details).getD []) =
          (store.detailLabels id).map fun label => ⟨depth + 1, label⟩ := by
        cases found : store.value? id with
        | none => rw [detailLabels, found]; rfl
        | some value => exact store.rowsAll_details found _
      have properties : rowsAll (depth + 1) ((store.propertiesOf id).entries.map fun step =>
            .node (store.labelOf step.1 step.2) (store.unfold room (id :: path) step.2)) =
          (store.propertiesOf id).entries.flatMap fun step =>
            ((store.trails room step.2).filter
              fun trail => Avoids (id :: path) (trail.passed step.2).dropLast).flatMap fun trail =>
                store.trailRows depth (room + 1) path top id (step :: trail) := by
        rw [rowsAll_eq_flatMap, List.flatMap_map]
        refine List.flatMap_congr fun step _ => ?_
        rw [ih]
        exact List.flatMap_congr fun trail _ => (trailRows_cons seen step trail).symm
      rw [filter_trails_of_not_mem seen, List.flatMap_cons, List.flatMap_assoc]
      simp only [List.flatMap_map]
      rw [← properties, trailRows, if_pos unfolds, rows, below, rowsAll_append, details]
      rfl

/-- The rows of a value at the top of an outline. -/
theorem rows_unfoldTop (top : Text) (id : ValueId) :
    rows 1 (.node top (store.unfoldTop id)) = store.unfoldedRows top id := by
  have listed (trail : Trail) :
      Avoids [] (trail.passed id).dropLast ↔ trail.IsListed id := avoids_nil
  have unfolded (trail : Trail) : (Avoids [] (trail.passed id) ∧ trail.length < maxDepth) ↔
      trail.IsUnfolded id := and_congr_left' avoids_nil
  have same (trail : Trail) : store.trailRows 1 maxDepth [] top id trail =
      ⟨trail.length + 1, store.labelAt top trail⟩ ::
        if trail.IsUnfolded id then
          (store.detailLabels (trail.goal id)).map fun label => ⟨trail.length + 2, label⟩
        else [] := by
    simp only [trailRows, unfolded, Nat.add_comm 1]
  rw [unfoldTop, rows_unfold, unfoldedRows]
  simp only [listed]
  exact List.flatMap_congr fun trail _ => same trail

end Store

namespace ModuleDocs

def outlineRows (docs : ModuleDocs) : List Row :=
  ⟨0, styled "bold blue".toList docs.moduleId⟩ ::
    (docs.published.entries.flatMap fun entry =>
      docs.store.unfoldedRows (docs.store.labelOf entry.1 entry.2) entry.2) ++
    docs.exports.toList.flatMap fun id => docs.store.unfoldedRows (docs.exportsLabel id) id

/-- The outline of a module is the unfolding of its property graph: of every published value in
order, and of the value that it exports, it has the rows of all trails along properties that
pass no value twice before they end, in the order of the properties. Each trail is listed with
the label of its last property. Its value is unfolded wherever a trail leads to it that has not
passed it before and has less than four properties: there its tags, its parameters and its first
return are listed in this order, before its properties. No other outline has these rows. -/
theorem rows_eq_outlineRows_iff (docs : ModuleDocs) :
    (∀ outline : Outline, outline.rows 0 = docs.outlineRows ↔ outline = docs.outline) ∧
      ∀ id trail, trail ∈ docs.store.trails maxDepth id ↔
        docs.store.HasTrail id trail ∧ trail.length ≤ 4 := by
  have published : rowsAll 1 (docs.published.entries.map fun entry =>
        .node (docs.store.labelOf entry.1 entry.2) (docs.store.unfoldTop entry.2)) =
      docs.published.entries.flatMap fun entry =>
        docs.store.unfoldedRows (docs.store.labelOf entry.1 entry.2) entry.2 := by
    rw [rowsAll_eq_flatMap, List.flatMap_map]
    exact List.flatMap_congr fun entry _ => Store.rows_unfoldTop _ entry.2
  have exports : rowsAll 1 (docs.exports.toList.map fun id =>
        .node (docs.exportsLabel id) (docs.store.unfoldTop id)) =
      docs.exports.toList.flatMap fun id => docs.store.unfoldedRows (docs.exportsLabel id) id := by
    rw [rowsAll_eq_flatMap, List.flatMap_map]
    exact List.flatMap_congr fun id _ => Store.rows_unfoldTop _ id
  have drawn : docs.outline.rows 0 = docs.outlineRows := by
    have top : docs.outline.rows 0 = ⟨0, styled "bold blue".toList docs.moduleId⟩ ::
        rowsAll 1 ((docs.published.entries.map fun entry =>
          .node (docs.store.labelOf entry.1 entry.2) (docs.store.unfoldTop entry.2)) ++
          docs.exports.toList.map fun id =>
            .node (docs.exportsLabel id) (docs.store.unfoldTop id)) := rfl
    rw [top, rowsAll_append, published, exports]
    rfl
  refine ⟨?_, fun id trail => docs.store.mem_trails_iff⟩
  intro outline
  rw [← drawn]
  exact rows_inj

end ModuleDocs

/-- An object that holds itself and, twice, an object that leads back to it. -/
def ringStore : Store Empty where
  values :=
    [{ properties := .ofList [("self".toList, 0), ("a".toList, 1), ("b".toList, 1)] },
     { properties := .ofList [("back".toList, 0)] }]

/-- Both ways to the second object are followed, and each ends where it comes back. -/
example : ((ringStore.trails maxDepth 0).filter fun trail => trail.IsListed 0).map
      (·.map fun step => String.ofList step.1) =
    [[], ["self"], ["a"], ["a", "back"], ["b"], ["b", "back"]] := by
  decide +kernel

end CommentDocs
