import CommentDocs.Proofs.Module.Scoping

/-!
# Values of expressions that are no names

An expression that is no name comes to a value of its own: a literal to the value that was made and
documented for it, any other expression to a value that was made last. There is one moment at which
it has just come to this value. What uses the value without a name follows this moment directly,
and only such a use gives it a name. Until then nothing else in the walk uses it.
-/

namespace CommentDocs

open Binding Syntax

namespace Walk

open ModuleDocs (Step)

/-- What is known of the steps of a walk: where their values come from, and at which nodes they are
taken. -/
structure Regular (site : Site) (moduleId source : Text) (root : Tree)
    (program : List (Occurrence × Option Construct)) (history : List Step) : Prop where
  justified : Lawful (Justified site moduleId program) history
  orderly : Lawful (Orderly site moduleId source root) history
  accounted : Lawful (Accounted site moduleId source root) history
  attributed : Attributed site moduleId source root history
  once : (history.filterMap Step.documented?).Nodup
  placed : ∀ step ∈ history, ∃ place, Placed site moduleId source root history ⟨place, step⟩

theorem regular_ofSource (moduleId source : Text) (tree : Tree) :
    Regular (siteOf source tree) moduleId source tree
      (expressionsOfList (Construct.topLevel source tree))
      (ofSource moduleId source tree).history where
  justified := (sound_ofSource moduleId source tree).lawful
  orderly := (closing_ofSource moduleId source tree).1.lawful
  accounted := (evaluation_ofSource moduleId source tree).1.lawful
  attributed := (evaluation_ofSource moduleId source tree).2
  once := nodup_documented_ofSource moduleId source tree
  placed step mem := by
    obtain ⟨taken, steps, tour⟩ := tour_ofSource moduleId source tree
    exact tour.placed_of_mem (steps ▸ mem)

variable {site : Site} {moduleId source : Text} {root : Tree} {history steps own : List Step}
variable {program : List (Occurrence × Option Construct)} {expression : Option Construct}
variable {frame : Option Frame} {value : ValueId} {step : Step}

/-- An expression that is no name has just come to a value in a frame. -/
inductive Fresh (site : Site) (moduleId : Text) (steps : List Step) (frame : Option Frame)
    (value : ValueId) : Prop
  | literal {here : Occurrence} {before : List Step}
      (created : Created site moduleId before (some here) value)
      (last : steps = before ++ [.document here value frame])
  | new {before : List Step} {type : Text} (last : steps = before ++ [.create type none])
      (made : (ModuleDocs.ofSteps site moduleId before).store.nextId = value)

/-- An expression has come to the value of its name, or to a value of its own. -/
theorem Evaluated.bound_or_fresh
    (evaluated : Evaluated site moduleId steps frame expression value) :
    (∃ name parts, expression = some (.identifier name parts) ∧
      (ModuleDocs.ofSteps site moduleId steps).store.lookup? site.scope name = some value) ∨
        Fresh site moduleId steps frame value := by
  cases evaluated with
  | name bound => exact .inl ⟨_, _, rfl, bound⟩
  | literal spelled created last => exact .inr (.literal created last)
  | new last made plain unbound => exact .inr (.new last made)

theorem Fresh.exists_created (fresh : Fresh site moduleId steps frame value) :
    ∃ here, Created site moduleId steps here value := by
  cases fresh with
  | literal created last => exact ⟨_, created.mono (last ▸ List.prefix_append _ _)⟩
  | new last made =>
    subst last
    exact ⟨none, _, _, List.prefix_refl _, made⟩

/-- A value is fresh at one moment. -/
theorem Fresh.eq (once : (history.filterMap Step.documented?).Nodup) {later : List Step}
    {outer : Option Frame} (one : Fresh site moduleId steps frame value)
    (other : Fresh site moduleId later outer value) (grown : steps <+: history)
    (further : later <+: history) : steps = later := by
  cases one with
  | literal created last =>
    cases other with
    | literal again finish =>
      subst last finish
      have place := (created.mono ((List.prefix_append _ _).trans grown)).unique
        (again.mono ((List.prefix_append _ _).trans further))
      obtain ⟨rfl, same⟩ := eq_of_nodup_filterMap once grown further rfl
        (Option.some.inj place ▸ rfl)
      rw [same]
    | new finish made =>
      subst last finish
      have place := (created.mono ((List.prefix_append _ _).trans grown)).unique
        ⟨_, _, further, made⟩
      cases place
  | new last made =>
    cases other with
    | literal again finish =>
      subst last finish
      have place := (again.mono ((List.prefix_append _ _).trans further)).unique
        ⟨_, _, grown, made⟩
      cases place
    | new finish same =>
      subst last finish
      obtain rfl := eq_of_create grown further (made.trans same.symm)
      rw [eq_of_point grown further]

/-- A value got a name by a use that followed a moment directly. -/
def NamedAfter (own : List Step) (value : ValueId) (steps : List Step) : Prop :=
  ∃ uses name, (∀ use ∈ uses, use.isUse) ∧ own ++ uses ++ [.publish name value] <+: steps

theorem NamedAfter.mono {later : List Step} (grown : steps <+: later)
    (named : NamedAfter own value steps) : NamedAfter own value later := by
  obtain ⟨uses, name, all, done⟩ := named
  exact ⟨uses, name, all, done.trans grown⟩

/-- A value does not belong to a function that publishes itself. -/
def Undeclared (site : Site) (moduleId : Text) (root : Tree) (history : List Step)
    (value : ValueId) : Prop :=
  ∀ steps, steps <+: history → ¬ Declared site moduleId root steps value

/-- What a step of a walk is given, an expression has come to. -/
theorem Regular.exists_traced (regular : Regular site moduleId source root program history)
    {limit : List Step} (grown : limit <+: history) (mem : step ∈ limit)
    (given : ∀ steps, Accounted site moduleId source root steps step →
      Given site moduleId source root steps step value) :
    ∃ steps expression, steps ++ [step] <+: limit ∧
      Traced site moduleId steps expression value := by
  obtain ⟨before, point⟩ := exists_point_of_mem mem
  obtain ⟨expression, -, traced⟩ := given before (regular.accounted.of_point (point.trans grown))
  exact ⟨before, expression, point, traced⟩

/-- The uses that follow a moment are the steps that are taken, as long as these are uses. -/
theorem point_of_uses {uses : List Step} {first second last : Step}
    (pair : own ++ [first, second] <+: history) (ends : second.isUse = false)
    (all : ∀ use ∈ uses, use.isUse) (taken : own ++ uses ++ [last] <+: history) :
    uses = [] ∧ last = first ∨ uses = [first] ∧ last = second := by
  rw [List.append_cons] at pair
  have opens := (List.prefix_append _ _).trans pair
  cases uses with
  | nil =>
    rw [List.append_nil] at taken
    exact .inl ⟨rfl, eq_of_point taken opens⟩
  | cons use rest =>
    rw [List.append_cons own use rest] at taken
    have begun := (List.prefix_append _ _).trans taken
    obtain rfl := eq_of_point ((List.prefix_append _ _).trans begun) opens
    cases rest with
    | nil =>
      rw [List.append_nil] at taken
      exact .inr ⟨rfl, eq_of_point taken pair⟩
    | cons next more =>
      rw [List.append_cons] at begun
      obtain rfl := eq_of_point ((List.prefix_append _ _).trans begun) pair
      have used := all next (List.mem_cons_of_mem _ List.mem_cons_self)
      rw [ends] at used
      cases used

section Fresh

variable (regular : Regular site moduleId source root program history)
variable (fresh : Fresh site moduleId own frame value) (grown : own <+: history)

include regular fresh grown

/-- A use of a fresh value follows its moment, or the value had a name before. -/
theorem Traced.follows_or_published (traced : Traced site moduleId steps expression value)
    (taken : steps <+: history) :
    (∃ uses, steps = own ++ uses ∧ ∀ use ∈ uses, use.isUse) ∨
      ∃ before name, before ++ [.publish name value] <+: steps := by
  obtain ⟨evaluated, uses, outer, rfl, all, come⟩ := traced
  have before := (List.prefix_append _ _).trans taken
  rcases come.bound_or_fresh with ⟨name, parts, -, bound⟩ | other
  · have published := ModuleDocs.publish_mem_of_lookup? site moduleId bound
    obtain ⟨earlier, point⟩ := exists_point_of_mem published
    exact .inr ⟨earlier, name, point.trans (List.prefix_append _ _)⟩
  · obtain rfl := fresh.eq regular.once other grown before
    exact .inl ⟨uses, rfl, all⟩

variable (undeclared : Undeclared site moduleId root history value)

include undeclared

/-- A fresh value gets its first name by a use that follows its moment. -/
theorem namedAfter_of_publish {before : List Step} {name : Text}
    (taken : before ++ [.publish name value] <+: history) :
    NamedAfter own value (before ++ [.publish name value]) := by
  induction length : before.length using Nat.strong_induction_on generalizing before name with
  | _ n ih =>
    have former := (List.prefix_append _ _).trans taken
    rcases regular.accounted.of_point taken with declared | ⟨expression, -, traced⟩
    · exact absurd declared (undeclared _ former)
    · rcases traced.follows_or_published regular fresh grown former with
        ⟨uses, rfl, all⟩ | ⟨earlier, first, point⟩
      · exact ⟨uses, name, all, List.prefix_refl _⟩
      · have shorter := point.length_le
        rw [List.length_append, List.length_singleton] at shorter
        exact (ih earlier.length (by omega) (point.trans former) rfl).mono
          (point.trans (List.prefix_append _ _))

theorem Traced.follows_or_named (traced : Traced site moduleId steps expression value)
    (taken : steps <+: history) :
    (∃ uses, steps = own ++ uses ∧ ∀ use ∈ uses, use.isUse) ∨ NamedAfter own value steps := by
  refine (traced.follows_or_published regular fresh grown taken).imp_right ?_
  rintro ⟨before, name, point⟩
  exact (namedAfter_of_publish regular fresh grown undeclared (point.trans taken)).mono point

/-- A fresh value is not used before its moment. -/
theorem Traced.own_prefix (traced : Traced site moduleId steps expression value)
    (taken : steps <+: history) : own <+: steps := by
  rcases traced.follows_or_named regular fresh grown undeclared taken with
    ⟨uses, rfl, -⟩ | ⟨uses, name, -, named⟩
  · exact List.prefix_append _ _
  · rw [List.append_assoc] at named
    exact (List.prefix_append _ _).trans named

/-- A fresh value has no name before its moment. -/
theorem own_prefix_of_lookup? {name : Text} (taken : steps <+: history)
    (bound : (ModuleDocs.ofSteps site moduleId steps).store.lookup? site.scope name = some value) :
    own <+: steps := by
  obtain ⟨before, point⟩ := exists_point_of_mem
    (ModuleDocs.publish_mem_of_lookup? site moduleId bound)
  obtain ⟨uses, first, -, named⟩ :=
    namedAfter_of_publish regular fresh grown undeclared (point.trans taken)
  rw [List.append_assoc] at named
  exact ((List.prefix_append _ _).trans named).trans point

end Fresh

end Walk

end CommentDocs
