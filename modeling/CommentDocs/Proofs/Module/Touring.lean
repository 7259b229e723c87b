import CommentDocs.Proofs.Module.Tour

/-!
# Contracts for tours

A computation *tours* a part of a tree if the steps that it adds to a history are a tour there.
Like the contracts of a walk, these have a rule for each way in which walks are put together and
for each small part of a walk. The history at the start is known by a beginning of it, `base`:
what was made in it is still there later.
-/

namespace CommentDocs.Walk

open Binding Syntax
open ModuleDocs (Step)

def nowhere : Nat → Prop := fun _ => False

/-- The branches of a place that lead to some nodes. -/
def through (place : Place) (nodes : List Located) (index : Nat) : Prop :=
  ∃ node ∈ nodes, index :: place <:+ node.place

section

variable (site : Site) (moduleId source : Text) (root : Tree)

/-- The steps that a computation adds to a history are a tour. -/
def AddsTour (entry : List Step) (place : Place) (first last : Nat) (branches : Nat → Prop)
    {α : Type} (action : StateM Walk α) (Q : α → List Step → Prop) : Prop :=
  Contract site moduleId (fun _ _ => True) (· = entry) action fun answer steps =>
    (∃ taken : List Taken, steps = entry ++ taken.map (·.step) ∧
      Tour site moduleId source root steps place first last branches taken) ∧ Q answer steps

/-- Whenever a computation starts after `base`, it adds a tour to the history. -/
def Tours (base : List Step) (place : Place) (first last : Nat) (branches : Nat → Prop) {α : Type}
    (action : StateM Walk α) (Q : α → List Step → Prop) : Prop :=
  ∀ entry, base <+: entry →
    AddsTour site moduleId source root entry place first last branches action Q

end

variable {site : Site} {moduleId source : Text} {root : Tree}

namespace AddsTour

variable {entry : List Step} {place : Place} {first last : Nat} {branches : Nat → Prop}
variable {α β : Type} {action : StateM Walk α} {Q : α → List Step → Prop}

theorem pure {answer : α} (holds : Q answer entry) :
    AddsTour site moduleId source root entry place first last branches (Pure.pure answer) Q := by
  refine Contract.pure ?_
  rintro _ rfl
  exact ⟨⟨[], by simp, .nil⟩, holds⟩

theorem weaken {low high : Nat} {more : Nat → Prop} (lower : low ≤ first) (higher : last ≤ high)
    (wider : ∀ index, branches index → more index)
    (adds : AddsTour site moduleId source root entry place first last branches action Q) :
    AddsTour site moduleId source root entry place low high more action Q := by
  refine adds.mono_post fun answer steps done => ?_
  obtain ⟨⟨taken, added, tour⟩, holds⟩ := done
  exact ⟨⟨taken, added, tour.weaken lower higher wider⟩, holds⟩

theorem bind {next : α → StateM Walk β} {R : β → List Step → Prop} {start finish : Nat}
    {others : Nat → Prop}
    (adds : AddsTour site moduleId source root entry place first last branches action Q)
    (rest : ∀ answer middle, entry <+: middle → Q answer middle →
      AddsTour site moduleId source root middle place start finish others (next answer) R)
    (stages : Follow first last start finish)
    (closed : last < 2 ∨ ∀ index, ¬ others index)
    (turn : ∀ left right, branches left → others right → root.VisitsBefore place left right) :
    AddsTour site moduleId source root entry place first finish
      (fun index => branches index ∨ others index) (action >>= next) R := by
  refine Contract.bind adds fun answer => Contract.with_entry ?_
  rintro middle - ⟨⟨taken, rfl, tour⟩, holds⟩
  refine (rest answer _ (List.prefix_append _ _) holds).mono_post fun answer steps done => ?_
  obtain ⟨⟨more, rfl, also⟩, holds⟩ := done
  refine ⟨⟨taken ++ more, by simp, ?_⟩, holds⟩
  exact (tour.mono (List.prefix_append _ _)).append also stages closed turn

/-- What happens at the node after all that is below it. -/
theorem close {next : α → StateM Walk β} {R : β → List Step → Prop} (start finish : Nat)
    (adds : AddsTour site moduleId source root entry place first last branches action Q)
    (rest : ∀ answer middle, entry <+: middle → Q answer middle →
      AddsTour site moduleId source root middle place start finish nowhere (next answer) R)
    (stages : Follow first last start finish) :
    AddsTour site moduleId source root entry place first finish branches (action >>= next) R := by
  refine (adds.bind rest stages (.inr fun _ none => none) ?_).weaken (Nat.le_refl _)
    (Nat.le_refl _) fun index inside => inside.resolve_right id
  exact fun _ _ _ none => none.elim

/-- One step at the node. -/
theorem perform {step : Step} {Q : Unit → List Step → Prop}
    (placed : Placed site moduleId source root (entry ++ [step]) ⟨place, step⟩)
    (silent : returnsBy [step] = returnsIn root [step]) (holds : Q () (entry ++ [step])) :
    AddsTour site moduleId source root entry place step.stage step.stage branches
      (Walk.perform site step) Q := by
  refine Contract.perform ?_
  rintro _ - rfl
  exact ⟨trivial, ⟨[⟨place, step⟩], rfl, .single placed silent⟩, holds⟩

end AddsTour

namespace Tours

variable {base : List Step} {place : Place} {first last : Nat} {branches : Nat → Prop}
variable {α β : Type} {action : StateM Walk α} {Q : α → List Step → Prop}

theorem mono_post {R : α → List Step → Prop}
    (tours : Tours site moduleId source root base place first last branches action Q)
    (post : ∀ answer steps, Q answer steps → R answer steps) :
    Tours site moduleId source root base place first last branches action R :=
  fun entry started => (tours entry started).mono_post fun answer steps done =>
    ⟨done.1, post answer steps done.2⟩

theorem weaken {low high : Nat} {more : Nat → Prop} (lower : low ≤ first) (higher : last ≤ high)
    (wider : ∀ index, branches index → more index)
    (tours : Tours site moduleId source root base place first last branches action Q) :
    Tours site moduleId source root base place low high more action Q :=
  fun entry started => (tours entry started).weaken lower higher wider

/-- What tours a node below tours one branch. -/
theorem below {index low high : Nat} {inner : Nat → Prop} {lower : Place}
    (inside : branches index) (further : index :: place <:+ lower)
    (tours : Tours site moduleId source root base lower first last inner action Q) :
    Tours site moduleId source root base place low high branches action Q := by
  intro entry started
  refine (tours entry started).mono_post fun answer steps done => ?_
  obtain ⟨⟨taken, added, tour⟩, holds⟩ := done
  exact ⟨⟨taken, added, tour.below inside further⟩, holds⟩

theorem pure {answer : α} (holds : ∀ steps, base <+: steps → Q answer steps) :
    Tours site moduleId source root base place first last branches (Pure.pure answer) Q :=
  fun entry started => .pure (holds entry started)

theorem bind {next : α → StateM Walk β} {R : β → List Step → Prop} {start finish : Nat}
    {others : Nat → Prop}
    (tours : Tours site moduleId source root base place first last branches action Q)
    (rest : ∀ answer middle, base <+: middle → Q answer middle →
      Tours site moduleId source root middle place start finish others (next answer) R)
    (stages : Follow first last start finish)
    (closed : last < 2 ∨ ∀ index, ¬ others index)
    (turn : ∀ left right, branches left → others right → root.VisitsBefore place left right) :
    Tours site moduleId source root base place first finish
      (fun index => branches index ∨ others index) (action >>= next) R :=
  fun entry started => (tours entry started).bind
    (fun answer middle grown holds =>
      rest answer middle (started.trans grown) holds middle (List.prefix_refl _))
    stages closed turn

/-- What goes on at the node and in later branches. -/
theorem go_on {next : α → StateM Walk β} {R : β → List Step → Prop} {finish : Nat}
    {others : Nat → Prop}
    (tours : Tours site moduleId source root base place 1 1 branches action Q)
    (rest : ∀ answer middle, base <+: middle → Q answer middle →
      Tours site moduleId source root middle place 1 finish others (next answer) R)
    (late : 1 ≤ finish)
    (turn : ∀ left right, branches left → others right → root.VisitsBefore place left right) :
    Tours site moduleId source root base place 1 finish
      (fun index => branches index ∨ others index) (action >>= next) R :=
  tours.bind rest ⟨Nat.le_refl _, late, .inr ⟨Nat.le_refl _, Nat.le_refl _⟩⟩
    (.inl (Nat.lt_succ_self _)) turn

/-- What happens at the node after all that is below it. -/
theorem close {next : α → StateM Walk β} {R : β → List Step → Prop} (start finish : Nat)
    (tours : Tours site moduleId source root base place first last branches action Q)
    (rest : ∀ answer middle, base <+: middle → Q answer middle →
      Tours site moduleId source root middle place start finish nowhere (next answer) R)
    (stages : Follow first last start finish) :
    Tours site moduleId source root base place first finish branches (action >>= next) R :=
  fun entry started => (tours entry started).close start finish
    (fun answer middle grown holds =>
      rest answer middle (started.trans grown) holds middle (List.prefix_refl _))
    stages

/-- An answer that is only passed on. -/
theorem answer {f : α → β} {R : β → List Step → Prop}
    (tours : Tours site moduleId source root base place first last branches action Q)
    (post : ∀ answer steps, Q answer steps → R (f answer) steps) :
    Tours site moduleId source root base place first last branches
      (action >>= fun answer => Pure.pure (f answer)) R := by
  intro entry started
  refine Contract.bind (tours entry started) fun answer => Contract.pure ?_
  exact fun steps done => ⟨done.1, post answer steps done.2⟩

/-- What more steps cannot undo is kept. -/
theorem keep {F : List Step → Prop}
    (tours : Tours site moduleId source root base place first last branches action Q)
    (stable : ∀ later, base <+: later → F later) :
    Tours site moduleId source root base place first last branches action
      fun answer steps => Q answer steps ∧ F steps := by
  intro entry started
  refine (tours entry started).mono_post fun answer steps done => ?_
  obtain ⟨⟨taken, rfl, tour⟩, holds⟩ := done
  exact ⟨⟨taken, rfl, tour⟩, holds, stable _ (started.trans (List.prefix_append _ _))⟩

/-- The first of some nodes in a row, then the others. -/
theorem cons {next : α → StateM Walk β} {R : β → List Step → Prop} {node : Located}
    {nodes : List Located} {inner : Nat → Prop} (inRow : Located.InRow place (node :: nodes))
    (plain : (root.formAt? place).bind Form.lastField? = none)
    (tours : Tours site moduleId source root base node.place first last inner action Q)
    (rest : ∀ answer middle, base <+: middle → Q answer middle →
      Tours site moduleId source root middle place 1 1 (through place nodes) (next answer) R) :
    Tours site moduleId source root base place 1 1 (through place (node :: nodes))
      (action >>= next) R := by
  obtain ⟨index, further⟩ := inRow.below node List.mem_cons_self
  have own : Tours site moduleId source root base place 1 1 (through place [node]) action Q :=
    tours.below ⟨node, List.mem_cons_self, further⟩ further
  refine (own.go_on rest (Nat.le_refl _) ?_).weaken (Nat.le_refl _) (Nat.le_refl _) ?_
  · rintro left right ⟨one, mem, below⟩ ⟨other, later, beyond⟩
    cases List.mem_singleton.mp mem
    exact .order plain ((List.pairwise_cons.mp inRow.sorted).1 other later left right below beyond)
  · rintro other (⟨one, mem, below⟩ | ⟨one, mem, below⟩)
    · exact ⟨one, List.mem_cons.mpr (.inl (List.mem_singleton.mp mem)), below⟩
    · exact ⟨one, List.mem_cons_of_mem _ mem, below⟩

theorem current {next : ModuleDocs → StateM Walk β} {R : β → List Step → Prop}
    (rest : ∀ entry, base <+: entry → AddsTour site moduleId source root entry place first last
      branches (next (ModuleDocs.ofSteps site moduleId entry)) R) :
    Tours site moduleId source root base place first last branches (Walk.current >>= next) R := by
  intro entry started
  refine Contract.current ?_
  rintro _ - rfl
  exact rest _ started

/-- One step at the node. -/
theorem perform {step : Step} {Q : Unit → List Step → Prop}
    (placed : ∀ entry, base <+: entry →
      Placed site moduleId source root (entry ++ [step]) ⟨place, step⟩ ∧ Q () (entry ++ [step]))
    (silent : returnsBy [step] = returnsIn root [step]) :
    Tours site moduleId source root base place step.stage step.stage branches
      (perform site step) Q := by
  intro entry started
  obtain ⟨fits, holds⟩ := placed entry started
  exact .perform fits silent holds

/-- A step that has nothing to do with the nodes around it. -/
theorem perform_free (step : Step) (stage : Nat) (timed : step.stage = stage)
    (free : ∀ steps, Placed site moduleId source root steps ⟨place, step⟩)
    (silent : returnsBy [step] = returnsIn root [step]) :
    Tours site moduleId source root base place stage stage branches (Walk.perform site step)
      fun _ _ => True := by
  subst timed
  exact perform (fun _ _ => ⟨free _, trivial⟩) silent

/-- A value that is made where no literal stands. -/
theorem create (type : Text) :
    Tours site moduleId source root base place 1 1 branches (create site type none)
      fun value steps => ∃ before, steps = before ++ [.create type none] ∧
        (ModuleDocs.ofSteps site moduleId before).store.nextId = value := by
  intro entry started
  refine Contract.create ?_
  rintro before - rfl
  have placed : Placed site moduleId source root (before ++ [.create type none])
      ⟨place, .create type none⟩ := trivial
  exact ⟨trivial, ⟨[⟨place, .create type none⟩], rfl, .single placed rfl⟩, before, rfl, rfl⟩

/-- A literal is created first. If it is a function whose body is an expression, what comes after
has to return the value of the expression. -/
theorem create_literal {here : Occurrence} (shown : root.Shows source here) (type : Text)
    {next : ValueId → StateM Walk β} {R : β → List Step → Prop} {finish : Nat}
    (rest : ∀ value middle, base <+: middle →
      Created site moduleId middle (some here) value →
        Tours site moduleId source root middle here.place 1 finish branches (next value)
          fun answer steps => (∀ body, root.expressionBody? here.place = some body →
            ∃ function value,
              BodyReturned site moduleId source root steps here body function value) ∧
            R answer steps) :
    Tours site moduleId source root base here.place 0 finish branches
      (Walk.create site type (some here) >>= next) R := by
  intro entry started
  refine Contract.bind (Q := fun value steps => steps = entry ++ [.create type (some here)] ∧
    Created site moduleId steps (some here) value) (.create ?_) fun value => Contract.with_entry ?_
  · rintro steps - rfl
    exact ⟨trivial, rfl, steps, type, List.prefix_refl _, rfl⟩
  rintro middle - ⟨rfl, created⟩
  refine (rest value _ (started.trans (List.prefix_append _ _)) created _
    (List.prefix_refl _)).mono_post fun answer steps done => ?_
  obtain ⟨⟨taken, rfl, tour⟩, returned, holds⟩ := done
  have placed : Placed site moduleId source root
      (entry ++ [.create type (some here)] ++ taken.map (·.step))
      ⟨here.place, .create type (some here)⟩ := ⟨rfl, shown, returned⟩
  have opened : Tour site moduleId source root _ here.place 0 0 nowhere _ := .single placed rfl
  refine ⟨⟨⟨here.place, .create type (some here)⟩ :: taken, by simp, ?_⟩, holds⟩
  refine (opened.append tour ⟨Nat.zero_le _, Nat.zero_le _, .inl Nat.one_pos⟩
    (.inl (by decide)) ?_).weaken (Nat.le_refl _) (Nat.le_refl _) fun _ inside =>
      inside.resolve_left id
  exact fun _ _ none => none.elim

/-- Publishing a name at a node that binds it. -/
theorem publish {name : Text} {value : ValueId} {node : Tree}
    (found : root.nodeAt? place = some node) (binds : node.Binds source name) :
    Tours site moduleId source root base place 1 1 branches (publish site name value)
      fun _ _ => True := by
  have published (middle : List Step) : Tours site moduleId source root middle place 1 1 nowhere
      (Walk.perform site (.publish name value)) fun _ _ => True :=
    perform_free (.publish name value) 1 rfl (fun _ => ⟨node, found, binds⟩) rfl
  exact (perform_free (.name value name) 1 rfl (fun _ => trivial) rfl).close 1 1
    (fun _ middle _ _ => published middle) ⟨by decide, by decide, by decide⟩

end Tours

end CommentDocs.Walk
