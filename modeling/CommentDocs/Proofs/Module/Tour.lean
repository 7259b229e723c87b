import CommentDocs.Proofs.Module.Provenance
import CommentDocs.Proofs.Syntax.Located

/-!
# Tours

While a walk visits a node, it takes steps at this node and at nodes below it. A tour is such a
stretch of steps, each with the place of the node at which it is taken. It says three things:
what a step has to do with its node, in which order the nodes have their turn, and that every
return statement gives its value to the function around it.

Tours are put together like walks are: one after the other, as long as the nodes of the second
have their turn after those of the first.
-/

namespace CommentDocs

open Binding Syntax

namespace ModuleDocs.Step

/-- When a step is taken among the steps at one node. A literal is created first; it is documented
after all that is in it, and a member of an object is bound and documented after its value.
Steps of stage `1` may be taken more than once. -/
def stage : Step → Nat
  | .create _ (some _) => 0
  | .appendReturn _ _ none => 2
  | .document here _ _ => if here.node.kind = .property then 5 else 3
  | .setProperty _ _ _ => 4
  | _ => 1

end ModuleDocs.Step

namespace Syntax.Tree

/-- An occurrence of a node of the tree. A method of an object is a function and a property. -/
def Shows (source : Text) (root : Tree) (here : Occurrence) : Prop :=
  ∃ node, root.nodeAt? here.place = some node ∧
    (here.node = node.toNode source ∨
      node.type = methodType ∧ here.node = { node.toNode source with kind := .property })

/-- The node binds a name of the module: as the name of a function that it declares, by a
declarator or by an assignment. -/
def Binds (source name : Text) (node : Tree) : Prop :=
  match Form.ofType node.type with
  | .function =>
    declarationTypes.contains node.type ∧ node.fieldText? source "name".toList = some name
  | .declarator => node.boundName? source = some name
  | .assignment => node.target source = .variable name
  | _ => False

def expressionBody? (root : Tree) (place : Place) : Option Located :=
  ((root.nodeAt? place).filter fun node => Form.ofType node.type = .function).bind fun node =>
    ((⟨place, node⟩ : Located).child? "body".toList).filter fun body =>
      body.tree.type ≠ blockType

end Syntax.Tree

namespace Walk

open ModuleDocs (Step)

structure Taken where
  place : Place
  step : Step

section

variable (site : Site) (moduleId source : Text) (root : Tree)

/-- The value that an expression has come to: of a name the value that it is bound to, of a
literal the value that was made for it, of any other expression a value that was made last. -/
inductive ComesTo (steps : List Step) (expression : Located) (value : ValueId) : Prop
  | name (named : expression.tree.type = identifierType)
      (bound : (ModuleDocs.ofSteps site moduleId steps).store.lookup? site.scope
        (expression.tree.text source) = some value)
  | literal (created : Created site moduleId steps (some (expression.occurrence source)) value)
  | new {before : List Step} {type : Text} (last : steps = before ++ [.create type none])
      (fresh : (ModuleDocs.ofSteps site moduleId before).store.nextId = value)

/-- The value of the expression body of the function at a node is appended to its returns. -/
structure BodyReturned (steps : List Step) (here : Occurrence) (body : Located)
    (function value : ValueId) : Prop where
  created : Created site moduleId steps (some here) function
  found : root.expressionBody? here.place = some body
  returned : ∃ before, before ++ [.appendReturn function value none] <+: steps ∧
    ComesTo site moduleId source before body value

/-- What a step has to do with the node at its place, after some steps. -/
def Placed (steps : List Step) (taken : Taken) : Prop :=
  match taken.step with
  | .create _ (some here) =>
    here.place = taken.place ∧ root.Shows source here ∧
      ∀ body, root.expressionBody? here.place = some body →
        ∃ function value, BodyReturned site moduleId source root steps here body function value
  | .publish name _ => ∃ node, root.nodeAt? taken.place = some node ∧ node.Binds source name
  | .appendReturn function value none =>
    ∃ here body, here.place = taken.place ∧
      BodyReturned site moduleId source root steps here body function value
  | .appendReturn function _ (some here) =>
    here.place = taken.place ∧ ∃ around : Occurrence, around.node.kind = .function ∧
      root.enclosing? taken.place = some around.place ∧
        Created site moduleId steps (some around) function
  | .document here _ frame =>
    here.place = taken.place ∧ root.Shows source here ∧
      root.enclosing? taken.place = frame.map (·.here.place) ∧
        ∀ around ∈ frame, Created site moduleId steps (some around.here) around.value
  | _ => True

/-- A step has its turn before another one. -/
structure InTurn (earlier later : Taken) : Prop where
  /-- Where their places part, the branch of the first is visited before. -/
  apart {place : Place} {first second : Nat}
      (parts : place.Parts first second earlier.place later.place) :
    first = second ∨ root.VisitsBefore place first second
  /-- At one node, the stages follow each other. -/
  stage (same : earlier.place = later.place) :
    earlier.step.stage < later.step.stage ∨ earlier.step.stage = 1 ∧ later.step.stage = 1
  /-- Nothing below a node follows its last steps. -/
  closed (last : 2 ≤ earlier.step.stage) (below : earlier.place <:+ later.place) :
    earlier.place = later.place

/-- The values that return statements give to functions: statement, function, value. -/
def returnsBy (steps : List Step) : List (Occurrence × ValueId × ValueId) :=
  steps.filterMap fun
    | .appendReturn function value (some here) => some (here, function, value)
    | _ => none

/-- The values of the return statements that are documented inside functions: statement, function,
value. -/
def returnsIn (steps : List Step) : List (Occurrence × ValueId × ValueId) :=
  steps.filterMap fun
    | .document here value (some frame) =>
      if here.node.kind = .returning ∧ (root.formAt? here.place).isSome ∧
          frame.here.node.kind = .function then
        some (here, frame.value, value)
      else none
    | _ => none

/-- Steps of one node at stages from `start` to `finish` may come after those from `first` to
`last`. -/
structure Follow (first last start finish : Nat) : Prop where
  opens : first ≤ start
  ends : last ≤ finish
  next : last < start ∨ last ≤ 1 ∧ 1 ≤ start

/-- A stretch of steps, taken while the node at `place` is open: at the node itself from the
stage `first` to the stage `last`, and below it in some `branches`. -/
structure Tour (steps : List Step) (place : Place) (first last : Nat) (branches : Nat → Prop)
    (taken : List Taken) : Prop where
  within : ∀ one ∈ taken, one.place = place ∧ first ≤ one.step.stage ∧ one.step.stage ≤ last ∨
    ∃ index, branches index ∧ index :: place <:+ one.place
  placed : ∀ one ∈ taken, Placed site moduleId source root steps one
  inTurn : taken.Pairwise (InTurn root)
  returned : returnsBy (taken.map (·.step)) = returnsIn root (taken.map (·.step))

end

variable {site : Site} {moduleId source : Text} {root : Tree} {steps later : List Step}
variable {place : Place}

/-- Of the steps below a node, the one in the branch that is visited before has its turn
before. -/
theorem inTurn_of_branches {one other : Taken} {left right : Nat}
    (before : root.VisitsBefore place left right) (here : left :: place <:+ one.place)
    (there : right :: place <:+ other.place) : InTurn root one other where
  apart parts := by
    have own : place.Parts left right one.place other.place := ⟨here, there⟩
    rcases own.unique before.ne parts with same | ⟨rfl, rfl, rfl⟩
    · exact .inl same
    · exact .inr before
  stage same := absurd (Place.eq_of_suffix here (same ▸ there)) before.ne
  closed _ below := absurd (Place.eq_of_suffix (here.trans below) there) before.ne

/-- Steps at a node and steps below it do not part. -/
theorem apart_of_suffix {one other : Place} (related : one <:+ other ∨ other <:+ one)
    {first second : Nat} (parts : place.Parts first second one other) : first = second := by
  rcases related with below | above
  · exact Place.eq_of_suffix (parts.left.trans below) parts.right
  · exact Place.eq_of_suffix parts.left (parts.right.trans above)

theorem ne_of_cons_suffix {index : Nat} {other : Place} (below : index :: place <:+ other) :
    other ≠ place := by
  rintro rfl
  exact absurd below.length_le (by simp)

theorem BodyReturned.mono (grown : steps <+: later) {here : Occurrence} {body : Located}
    {function value : ValueId}
    (returned : BodyReturned site moduleId source root steps here body function value) :
    BodyReturned site moduleId source root later here body function value where
  created := returned.created.mono grown
  found := returned.found
  returned := by
    obtain ⟨before, last, comes⟩ := returned.returned
    exact ⟨before, last.trans grown, comes⟩

/-- What a step has to do with its node stays so. -/
theorem Placed.mono (grown : steps <+: later) {taken : Taken}
    (placed : Placed site moduleId source root steps taken) :
    Placed site moduleId source root later taken := by
  obtain ⟨place, step⟩ := taken
  cases step with
  | create type here =>
    cases here with
    | none => trivial
    | some here =>
      obtain ⟨same, shown, returned⟩ := placed
      refine ⟨same, shown, fun body found => ?_⟩
      obtain ⟨function, value, done⟩ := returned body found
      exact ⟨function, value, done.mono grown⟩
  | appendReturn function value statement =>
    cases statement with
    | none =>
      obtain ⟨here, body, same, returned⟩ := placed
      exact ⟨here, body, same, returned.mono grown⟩
    | some here =>
      obtain ⟨same, around, kind, enclosing, created⟩ := placed
      exact ⟨same, around, kind, enclosing, created.mono grown⟩
  | document here value frame =>
    obtain ⟨same, shown, around, held⟩ := placed
    exact ⟨same, shown, around, fun frame inside => (held frame inside).mono grown⟩
  | _ => exact placed

namespace Tour

variable {first last : Nat} {branches : Nat → Prop} {taken : List Taken}

theorem mono (grown : steps <+: later)
    (tour : Tour site moduleId source root steps place first last branches taken) :
    Tour site moduleId source root later place first last branches taken :=
  { tour with placed := fun one mem => (tour.placed one mem).mono grown }

theorem placed_of_mem
    (tour : Tour site moduleId source root steps place first last branches taken) {step : Step}
    (mem : step ∈ taken.map (·.step)) :
    ∃ place, Placed site moduleId source root steps ⟨place, step⟩ := by
  obtain ⟨one, inside, rfl⟩ := List.mem_map.mp mem
  exact ⟨one.place, tour.placed one inside⟩

theorem nil : Tour site moduleId source root steps place first last branches [] where
  within _ mem := absurd mem List.not_mem_nil
  placed _ mem := absurd mem List.not_mem_nil
  inTurn := .nil
  returned := rfl

/-- A step at the node itself that has nothing to do with return statements. -/
theorem single {step : Step} (placed : Placed site moduleId source root steps ⟨place, step⟩)
    (silent : returnsBy [step] = returnsIn root [step]) :
    Tour site moduleId source root steps place step.stage step.stage branches [⟨place, step⟩] where
  within one mem := by
    cases List.mem_singleton.mp mem
    exact .inl ⟨rfl, Nat.le_refl _, Nat.le_refl _⟩
  placed one mem := by
    cases List.mem_singleton.mp mem
    exact placed
  inTurn := List.pairwise_singleton _ _
  returned := silent

/-- A tour of a node below is a tour in one branch. -/
theorem below {index low high : Nat} {inner : Nat → Prop} {lower : Place}
    (inside : branches index) (further : index :: place <:+ lower)
    (tour : Tour site moduleId source root steps lower first last inner taken) :
    Tour site moduleId source root steps place low high branches taken where
  within one mem := by
    refine .inr ⟨index, inside, further.trans ?_⟩
    rcases tour.within one mem with ⟨same, _⟩ | ⟨next, _, deeper⟩
    · exact same ▸ List.suffix_refl _
    · exact (List.suffix_cons _ _).trans deeper
  placed := tour.placed
  inTurn := tour.inTurn
  returned := tour.returned

theorem weaken {low high : Nat} {more : Nat → Prop} (lower : low ≤ first) (higher : last ≤ high)
    (wider : ∀ index, branches index → more index)
    (tour : Tour site moduleId source root steps place first last branches taken) :
    Tour site moduleId source root steps place low high more taken where
  within one mem := by
    rcases tour.within one mem with ⟨same, least, most⟩ | ⟨index, inside, below⟩
    · exact .inl ⟨same, Nat.le_trans lower least, Nat.le_trans most higher⟩
    · exact .inr ⟨index, wider index inside, below⟩
  placed := tour.placed
  inTurn := tour.inTurn
  returned := tour.returned

/-- One tour after the other: at the node itself the stages go on, and the branches of the first
are visited before those of the second. -/
theorem append {start : Nat} {finish : Nat} {others : Nat → Prop} {next : List Taken}
    (tour : Tour site moduleId source root steps place first last branches taken)
    (also : Tour site moduleId source root steps place start finish others next)
    (stages : Follow first last start finish)
    (closed : last < 2 ∨ ∀ index, ¬ others index)
    (turn : ∀ left right, branches left → others right → root.VisitsBefore place left right) :
    Tour site moduleId source root steps place first finish
      (fun index => branches index ∨ others index) (taken ++ next) where
  within one mem := by
    rcases List.mem_append.mp mem with before | after
    · rcases tour.within one before with ⟨same, least, most⟩ | ⟨index, inside, below⟩
      · exact .inl ⟨same, least, Nat.le_trans most stages.ends⟩
      · exact .inr ⟨index, .inl inside, below⟩
    · rcases also.within one after with ⟨same, least, most⟩ | ⟨index, inside, below⟩
      · exact .inl ⟨same, Nat.le_trans stages.opens least, most⟩
      · exact .inr ⟨index, .inr inside, below⟩
  placed one mem := by
    rcases List.mem_append.mp mem with before | after
    · exact tour.placed one before
    · exact also.placed one after
  inTurn := by
    refine List.pairwise_append.mpr ⟨tour.inTurn, also.inTurn, fun one before other after => ?_⟩
    rcases tour.within one before with ⟨rfl, least, most⟩ | ⟨left, inside, below⟩
    · rcases also.within other after with ⟨same, start, finish⟩ | ⟨right, others, further⟩
      · have next := stages.next
        refine ⟨fun parts => ?_, fun _ => by omega, fun _ _ => same.symm⟩
        exact .inl (apart_of_suffix (.inl (same ▸ List.suffix_refl _)) parts)
      · have under := (List.suffix_cons right one.place).trans further
        refine ⟨fun parts => .inl (apart_of_suffix (.inl under) parts), fun same => ?_, ?_⟩
        · exact absurd same.symm (ne_of_cons_suffix further)
        · intro late
          rcases closed with early | none
          · omega
          · exact absurd others (none right)
    · rcases also.within other after with ⟨rfl, start, finish⟩ | ⟨right, others, further⟩
      · have under := (List.suffix_cons left other.place).trans below
        refine ⟨fun parts => .inl (apart_of_suffix (.inr under) parts), fun same => ?_, ?_⟩
        · exact absurd same (ne_of_cons_suffix below)
        · intro _ above
          exact absurd (below.trans above).length_le (by simp)
      · exact inTurn_of_branches (turn left right inside others) below further
  returned := by
    have added := congrArg₂ (· ++ ·) tour.returned also.returned
    simpa only [returnsBy, returnsIn, List.map_append, List.filterMap_append] using added

end Tour

end Walk

end CommentDocs
