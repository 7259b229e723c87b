import CommentDocs.Proofs.Module.Contract

/-!
# Where documented values come from

A walk documents a value as a node's own for one of three reasons. The node is the function
or object literal that was evaluated to the value; or it is a return statement or a member
of an object literal, and the value is what its expression stands for; or the value is new
and was never published. An expression that is a plain name stands for the value that the
name is bound to, so this value may have been published long before. All other expressions
stand for values of their own.

The reasons are shown for every step of a walk at once, by induction on the constructs that
are visited.
-/

namespace CommentDocs

namespace Syntax

mutual

/-- The nodes that stand for the value of an expression, each with its expression: return
statements and members of object literals. -/
def Construct.expressions : Construct → List (Occurrence × Option Construct)
  | .function _ _ _ _ body => body.expressions
  | .object _ members => expressionsOfMembers members
  | .returning here argument => (here, argument) :: expressionsOfOption argument
  | .declarator _ value => expressionsOfOption value
  | .assignment _ value => expressionsOfOption value
  | .call _ inner arguments => expressionsOfList arguments ++ expressionsOfOption inner
  | .identifier _ parts => expressionsOfList parts
  | .other _ parts => expressionsOfList parts

def expressionsOfList : List Construct → List (Occurrence × Option Construct)
  | [] => []
  | construct :: rest => construct.expressions ++ expressionsOfList rest

def expressionsOfOption : Option Construct → List (Occurrence × Option Construct)
  | none => []
  | some construct => construct.expressions

def Body.expressions : Body → List (Occurrence × Option Construct)
  | .missing => []
  | .block statements => expressionsOfList statements
  | .expression construct => construct.expressions

def expressionsOfMembers : List Member → List (Occurrence × Option Construct)
  | [] => []
  | member :: rest => member.expressions ++ expressionsOfMembers rest

def Member.expressions : Member → List (Occurrence × Option Construct)
  | .pair here value => (here, value) :: expressionsOfOption value
  | .method here function => (here, some function) :: function.expressions
  | .shorthand _ => []
  | .other construct => construct.expressions

end

def Construct.literal? : Construct → Option Occurrence
  | .function here _ _ _ _ => some here
  | .object here _ => some here
  | _ => none

end Syntax

namespace Walk

open Binding Syntax
open ModuleDocs (Step)

variable (site : Site) (moduleId : Text)

/-- A value was created: at a literal that was evaluated to it, or where no literal stands. -/
def Created (steps : List Step) (here : Option Occurrence) (value : ValueId) : Prop :=
  ∃ before type, before ++ [.create type here] <+: steps ∧
    (ModuleDocs.ofSteps site moduleId before).store.nextId = value

/-- No name of the module was ever bound to a value. -/
def Unpublished (steps : List Step) (value : ValueId) : Prop :=
  ∀ name, Step.publish name value ∉ steps

def NoParameter (steps : List Step) (value : ValueId) : Prop :=
  ∀ function name, Step.addParameter function name value ∉ steps

/-- Values that may be published: those of the graph that are no parameters. -/
structure Publishable (steps : List Step) (value : ValueId) : Prop where
  known : value < (ModuleDocs.ofSteps site moduleId steps).store.nextId
  noParameter : NoParameter steps value

inductive StandsFor (steps : List Step) : Option Construct → ValueId → Prop
  /-- A plain name stands for the value that it is bound to. -/
  | name {name : Text} {parts : List Construct} {value : ValueId}
      (bound :
        (ModuleDocs.ofSteps site moduleId steps).store.lookup? site.scope name = some value) :
      StandsFor steps (some (.identifier name parts)) value
  /-- A literal stands for the value that it was evaluated to. -/
  | literal {construct : Construct} {here : Occurrence} {value : ValueId}
      (spelled : construct.literal? = some here)
      (created : Created site moduleId steps (some here) value) :
      StandsFor steps (some construct) value
  /-- Any other expression stands for a value that no name was ever bound to. -/
  | unpublished {expression : Option Construct} {value : ValueId}
      (publishable : Publishable site moduleId steps value)
      (unpublished : Unpublished steps value) :
      StandsFor steps expression value

/-- What justifies a step of a walk through constructs with these expressions. Parameters are
values of their own, which are never published. A value is documented as a node's own only if
it is the value of the node or was never published. -/
def Justified (program : List (Occurrence × Option Construct)) (steps : List Step) : Step → Prop
  | .publish _ value => Publishable site moduleId steps value
  | .addParameter _ _ parameter =>
    Created site moduleId steps none parameter ∧ Unpublished steps parameter
  | .document here value _ =>
    Created site moduleId steps (some here) value ∨
      (∃ expression, (here, expression) ∈ program ∧
        StandsFor site moduleId steps expression value) ∨
      Unpublished steps value
  | _ => True

variable {site moduleId} {program : List (Occurrence × Option Construct)} {steps : List Step}

theorem Created.mono {earlier later : List Step} (grown : earlier <+: later)
    {here : Option Occurrence} {value : ValueId}
    (created : Created site moduleId earlier here value) :
    Created site moduleId later here value := by
  obtain ⟨before, type, first, fresh⟩ := created
  exact ⟨before, type, first.trans grown, fresh⟩

theorem lt_nextId_concat_create (type : Text) (here : Option Occurrence) :
    (ModuleDocs.ofSteps site moduleId steps).store.nextId <
      (ModuleDocs.ofSteps site moduleId (steps ++ [.create type here])).store.nextId := by
  rw [ModuleDocs.ofSteps_concat]
  simp [ModuleDocs.apply, ModuleDocs.mapStore]

theorem Created.lt_nextId {here : Option Occurrence} {value : ValueId}
    (created : Created site moduleId steps here value) :
    value < (ModuleDocs.ofSteps site moduleId steps).store.nextId := by
  obtain ⟨before, type, first, rfl⟩ := created
  exact Nat.lt_of_lt_of_le (lt_nextId_concat_create type here)
    (ModuleDocs.nextId_le_of_prefix site moduleId first)

/-- A value is created at one point. -/
theorem eq_of_create {history before after : List Step} {type kind : Text}
    {here there : Option Occurrence} (one : before ++ [.create type here] <+: history)
    (another : after ++ [.create kind there] <+: history)
    (same : (ModuleDocs.ofSteps site moduleId before).store.nextId =
      (ModuleDocs.ofSteps site moduleId after).store.nextId) : before = after := by
  rcases point_cases one another with earlier | ⟨equal, -⟩ | later
  · have created : Created site moduleId after here _ := ⟨before, type, earlier, same⟩
    exact absurd created.lt_nextId (Nat.lt_irrefl _)
  · exact equal
  · have created : Created site moduleId before there _ := ⟨after, kind, later, same.symm⟩
    exact absurd created.lt_nextId (Nat.lt_irrefl _)

/-- A value is created once. -/
theorem Created.unique {here there : Option Occurrence} {value : ValueId}
    (first : Created site moduleId steps here value)
    (second : Created site moduleId steps there value) : here = there := by
  obtain ⟨before, type, left, rfl⟩ := first
  obtain ⟨after, other, right, same⟩ := second
  obtain rfl := eq_of_create left right same.symm
  have step := eq_of_point left right
  simp only [Step.create.injEq] at step
  exact step.2

/-- A value that is created somewhere in a walk is there before a step that creates none, or it is
not even there after the step. -/
theorem Created.apart {history : List Step} {here : Option Occurrence} {value : ValueId}
    (created : Created site moduleId history here value) {step : Step}
    (taken : steps ++ [step] <+: history) (other : ∀ type there, step ≠ .create type there) :
    value < (ModuleDocs.ofSteps site moduleId steps).store.nextId ∨
      (ModuleDocs.ofSteps site moduleId (steps ++ [step])).store.nextId ≤ value := by
  obtain ⟨before, type, made, rfl⟩ := created
  rcases point_cases made taken with earlier | ⟨-, rfl⟩ | later
  · have created : Created site moduleId steps here _ := ⟨before, type, earlier, rfl⟩
    exact .inl created.lt_nextId
  · exact absurd rfl (other type here)
  · exact .inr (ModuleDocs.nextId_le_of_prefix site moduleId later)

section Lawful

variable (lawful : Lawful (Justified site moduleId program) steps)

include lawful

theorem lt_nextId_of_published {name : Text} {value : ValueId}
    (published : Step.publish name value ∈ steps) :
    value < (ModuleDocs.ofSteps site moduleId steps).store.nextId := by
  obtain ⟨earlier, later, rfl⟩ := List.append_of_mem published
  have publishable : Publishable site moduleId earlier value := lawful earlier _ later rfl
  exact Nat.lt_of_lt_of_le publishable.known
    (ModuleDocs.nextId_le_of_prefix site moduleId (List.prefix_append _ _))

theorem created_of_addParameter {function parameter : ValueId} {name : Text}
    (added : Step.addParameter function name parameter ∈ steps) :
    Created site moduleId steps none parameter := by
  obtain ⟨earlier, later, rfl⟩ := List.append_of_mem added
  have justified : Created site moduleId earlier none parameter ∧ Unpublished earlier parameter :=
    lawful earlier _ later rfl
  exact justified.1.mono (List.prefix_append _ _)

/-- The value of a literal is no parameter. -/
theorem Created.noParameter {here : Occurrence} {value : ValueId}
    (created : Created site moduleId steps (some here) value) : NoParameter steps value := by
  intro function name added
  cases created.unique (created_of_addParameter lawful added)

/-- A published value is no parameter. -/
theorem noParameter_of_published {name : Text} {value : ValueId}
    (published : Step.publish name value ∈ steps) : NoParameter steps value := by
  induction steps using List.reverseRecOn with
  | nil => cases published
  | append_singleton steps step ih =>
    obtain ⟨lawful, justified⟩ := lawful.of_concat
    intro function key added
    rcases List.mem_append.mp published with before | now
    · rcases List.mem_append.mp added with earlier | last
      · exact ih lawful before function key earlier
      · cases List.mem_singleton.mp last
        exact justified.2 name before
    · cases List.mem_singleton.mp now
      rcases List.mem_append.mp added with earlier | last
      · exact justified.noParameter function key earlier
      · cases List.mem_singleton.mp last

/-- A new value was never published and is no parameter. -/
theorem unpublished_nextId :
    Unpublished steps (ModuleDocs.ofSteps site moduleId steps).store.nextId :=
  fun _ published => absurd (lt_nextId_of_published lawful published) (Nat.lt_irrefl _)

theorem noParameter_nextId :
    NoParameter steps (ModuleDocs.ofSteps site moduleId steps).store.nextId :=
  fun _ _ added => absurd (created_of_addParameter lawful added).lt_nextId (Nat.lt_irrefl _)

theorem Created.publishable {here : Occurrence} {value : ValueId}
    (created : Created site moduleId steps (some here) value) :
    Publishable site moduleId steps value :=
  ⟨created.lt_nextId, created.noParameter lawful⟩

/-- Whatever an expression stands for may be published. -/
theorem StandsFor.publishable {expression : Option Construct} {value : ValueId}
    (stands : StandsFor site moduleId steps expression value) :
    Publishable site moduleId steps value := by
  cases stands with
  | name bound =>
    have published := ModuleDocs.publish_mem_of_lookup? site moduleId bound
    exact ⟨lt_nextId_of_published lawful published, noParameter_of_published lawful published⟩
  | literal spelled created => exact created.publishable lawful
  | unpublished publishable unpublished => exact publishable

end Lawful

theorem Unpublished.concat {step : Step} (silent : ∀ name value, step ≠ .publish name value)
    {value : ValueId} (unpublished : Unpublished steps value) :
    Unpublished (steps ++ [step]) value := by
  intro name mem
  rcases List.mem_append.mp mem with old | new
  · exact unpublished name old
  · exact silent name value (List.mem_singleton.mp new).symm

theorem NoParameter.concat {step : Step} (quiet : step.isQuiet) {value : ValueId}
    (noParameter : NoParameter steps value) : NoParameter (steps ++ [step]) value := by
  intro function name mem
  rcases List.mem_append.mp mem with old | new
  · exact noParameter function name old
  · exact Step.ne_addParameter_of_isQuiet quiet function name value (List.mem_singleton.mp new).symm

theorem Publishable.concat {step : Step} (quiet : step.isQuiet) {value : ValueId}
    (publishable : Publishable site moduleId steps value) :
    Publishable site moduleId (steps ++ [step]) value where
  known := Nat.lt_of_lt_of_le publishable.known
    (ModuleDocs.nextId_le_of_prefix site moduleId (List.prefix_append _ _))
  noParameter := publishable.noParameter.concat quiet

/-- What an expression stands for changes only when a name is bound. -/
theorem StandsFor.concat {step : Step} (quiet : step.isQuiet)
    {expression : Option Construct} {value : ValueId}
    (stands : StandsFor site moduleId steps expression value) :
    StandsFor site moduleId (steps ++ [step]) expression value := by
  have silent := Step.ne_publish_of_isQuiet quiet
  cases stands with
  | name bound =>
    refine .name ?_
    rw [ModuleDocs.ofSteps_concat, ← bound]
    exact Store.lookup?_congr (ModuleDocs.scopes_apply site silent _) _ _
  | literal spelled created => exact .literal spelled (created.mono (List.prefix_append _ _))
  | unpublished publishable unpublished =>
    exact .unpublished (publishable.concat quiet) (unpublished.concat silent)

end Walk

end CommentDocs
