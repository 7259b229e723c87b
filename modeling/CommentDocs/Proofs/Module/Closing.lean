import CommentDocs.Proofs.Module.Isolation
import CommentDocs.Proofs.Syntax.Located

/-!
# Functions are closed after their parameters

A walk that evaluates a function adds and documents its parameters, one right after the other and
in the order of the source, goes through the body, and then closes the function by documenting it.
Meanwhile other functions are opened and closed. No other step has to do with a parameter: what is
bound as a property, given as a return or documented is a value that a name is bound to, the value
of a literal, or a value made for an expression a moment before.

The induction is on the size of the node that is visited. Its invariant lists the functions that
are still open.
-/

namespace CommentDocs

open Binding Syntax

namespace Syntax.Tree

def parametersAt (source : Text) (root : Tree) (place : Place) : List Parameter :=
  ((root.nodeAt? place).map fun found => Located.parameters source ⟨place, found⟩).getD []

end Syntax.Tree

namespace ModuleDocs.Step

def parameterName? (function : ValueId) : Step → Option Text
  | .addParameter owner key _ => if owner = function then some key else none
  | _ => none

def opensFunction : Step → Bool
  | .create type (some _) => type = ModelType.function
  | _ => false

end ModuleDocs.Step

namespace Walk

open ModuleDocs (Step)

variable (site : Site) (moduleId source : Text) (root : Tree)

/-- A value that is known to be no parameter: a name is bound to it, a literal was evaluated to it,
or it was made last, but for steps that bind neither names nor parameters. -/
inductive Settled (steps : List Step) (value : ValueId) : Prop
  | bound {name : Text}
      (found : (ModuleDocs.ofSteps site moduleId steps).store.lookup? site.scope name = some value)
  | literal {here : Occurrence} (created : Created site moduleId steps (some here) value)
  | new {before quiet : List Step} {type : Text}
      (last : steps = before ++ .create type none :: quiet) (silent : ∀ step ∈ quiet, step.isQuiet)
      (fresh : (ModuleDocs.ofSteps site moduleId before).store.nextId = value)

/-- The value of a function or an object literal is documented at that literal. -/
def AtLiteral (steps : List Step) (here : Occurrence) (value : ValueId) : Prop :=
  here.node.kind = .function ∨ here.node.kind = .object →
    Created site moduleId steps (some here) value

/-- What the steps of a walk have to do with parameters. A parameter is made for the function that
it is added to, under the next of the function's names, and is then documented by its own comment.
All other values that are bound, given as returns or documented are settled. -/
def Orderly (steps : List Step) : Step → Prop
  | .create type (some here) => type = ModelType.function → here.node.kind = .function
  | .setProperty _ _ value => Settled site moduleId steps value
  | .appendReturn _ value _ => Settled site moduleId steps value
  | .addParameter function key parameter =>
    (∃ before, steps = before ++ [.create ModelType.any none] ∧
      (ModuleDocs.ofSteps site moduleId before).store.nextId = parameter) ∧
    ∃ here, Created site moduleId steps (some here) function ∧
      steps.filterMap (Step.parameterName? function) ++ [key] <+:
        (root.parametersAt source here.place).map (·.name)
  | .document here value frame =>
    Settled site moduleId steps value ∧ AtLiteral site moduleId steps here value ∨
      ∃ (before : List Step) (around : Frame) (parameter : Parameter), frame = some around ∧
        steps = before ++ [.addParameter around.value parameter.name value] ∧
          here = parameter.occurrence
  | _ => True

/-- A parameter was added to the function of a frame and then documented. -/
def Added (steps : List Step) (around : Frame) (parameter : Parameter) : Prop :=
  ∃ before value, before ++ [.addParameter around.value parameter.name value,
    .document parameter.occurrence value (some around)] <+: steps

/-- A function was documented after all its parameters. -/
def Closed (steps : List Step) (here : Occurrence) (function : ValueId) : Prop :=
  ∃ before frame, before ++ [.document here function frame] <+: steps ∧
    ∀ parameter ∈ root.parametersAt source here.place, Added before ⟨here, function⟩ parameter

/-- All functions but some open ones have been closed. -/
def ClosedBut (pending : List ValueId) (steps : List Step) : Prop :=
  ∀ before here, before ++ [.create ModelType.function (some here)] <+: steps →
    (ModuleDocs.ofSteps site moduleId before).store.nextId ∈ pending ∨
      Closed source root steps here (ModuleDocs.ofSteps site moduleId before).store.nextId

variable {site moduleId source root} {steps later : List Step} {pending : List ValueId}

theorem Settled.concat {step : Step} (quiet : step.isQuiet) {value : ValueId}
    (settled : Settled site moduleId steps value) :
    Settled site moduleId (steps ++ [step]) value := by
  cases settled with
  | @bound key found =>
    have kept : (ModuleDocs.ofSteps site moduleId (steps ++ [step])).store.lookup? site.scope key =
        (ModuleDocs.ofSteps site moduleId steps).store.lookup? site.scope key := by
      rw [ModuleDocs.ofSteps_concat]
      have scopes := ModuleDocs.scopes_apply site (Step.ne_publish_of_isQuiet quiet)
      exact Store.lookup?_congr (scopes _) _ _
    exact .bound (kept.trans found)
  | literal created => exact .literal (created.mono (List.prefix_append _ _))
  | new last silent fresh =>
    refine .new (by rw [last, List.append_assoc]; rfl) (fun other mem => ?_) fresh
    rcases List.mem_append.mp mem with old | here
    · exact silent other old
    · exact List.mem_singleton.mp here ▸ quiet

theorem Added.mono (grown : steps <+: later) {around : Frame} {parameter : Parameter}
    (added : Added steps around parameter) : Added later around parameter := by
  obtain ⟨before, value, done⟩ := added
  exact ⟨before, value, done.trans grown⟩

theorem Closed.mono (grown : steps <+: later) {here : Occurrence} {function : ValueId}
    (closed : Closed source root steps here function) : Closed source root later here function := by
  obtain ⟨before, frame, done, added⟩ := closed
  exact ⟨before, frame, done.trans grown, added⟩

theorem ClosedBut.mono {more : List ValueId} (covers : pending ⊆ more)
    (closed : ClosedBut site moduleId source root pending steps) :
    ClosedBut site moduleId source root more steps :=
  fun before here opened => (closed before here opened).imp_left fun mem => covers mem

/-- A step that evaluates no function opens none. -/
theorem ClosedBut.concat {step : Step} (other : step.opensFunction = false)
    (closed : ClosedBut site moduleId source root pending steps) :
    ClosedBut site moduleId source root pending (steps ++ [step]) := by
  intro before here opened
  rcases List.prefix_concat_iff.mp opened with last | earlier
  · obtain rfl := List.singleton_inj.mp (List.append_inj' last rfl).2
    simp [Step.opensFunction] at other
  · exact (closed before here earlier).imp_right fun done => done.mono (List.prefix_append _ _)

/-- A function that is evaluated is open. -/
theorem ClosedBut.open (closed : ClosedBut site moduleId source root pending steps)
    (here : Occurrence) :
    ClosedBut site moduleId source root
      ((ModuleDocs.ofSteps site moduleId steps).store.nextId :: pending)
      (steps ++ [.create ModelType.function (some here)]) := by
  intro before there opened
  rcases List.prefix_concat_iff.mp opened with last | earlier
  · exact .inl ((List.append_inj' last rfl).1 ▸ List.mem_cons_self)
  · refine (closed before there earlier).imp (List.mem_cons_of_mem _) fun done => ?_
    exact done.mono (List.prefix_append _ _)

/-- A function that is documented after its parameters is open no more. -/
theorem ClosedBut.close {here : Occurrence} {function : ValueId}
    (closed : ClosedBut site moduleId source root (function :: pending) steps)
    (created : Created site moduleId steps (some here) function)
    (added : ∀ parameter ∈ root.parametersAt source here.place,
      Added steps ⟨here, function⟩ parameter) (frame : Option Frame) :
    ClosedBut site moduleId source root pending (steps ++ [.document here function frame]) := by
  intro before there opened
  rcases List.prefix_concat_iff.mp opened with last | earlier
  · cases (List.append_inj' last rfl).2
  rcases closed before there earlier with mem | done
  · rcases List.mem_cons.mp mem with same | other
    · have again : Created site moduleId steps (some there) function := ⟨before, _, earlier, same⟩
      obtain rfl : there = here := Option.some.inj (again.unique created)
      subst same
      exact .inr ⟨steps, frame, List.prefix_refl _, added⟩
    · exact .inl other
  · exact .inr (done.mono (List.prefix_append _ _))

/-- Only a function that exists already has parameters. -/
theorem parameterName?_eq_nil (lawful : Lawful (Orderly site moduleId source root) steps)
    {function : ValueId} (new : (ModuleDocs.ofSteps site moduleId steps).store.nextId ≤ function) :
    steps.filterMap (Step.parameterName? function) = [] := by
  rw [List.filterMap_eq_nil_iff]
  intro step mem
  cases step with
  | addParameter owner key parameter =>
    obtain ⟨earlier, rest, rfl⟩ := List.append_of_mem mem
    obtain ⟨-, here, created, -⟩ := lawful earlier _ rest rfl
    have known : owner < function := Nat.lt_of_lt_of_le
      (created.mono (List.prefix_append _ _)).lt_nextId new
    exact if_neg (Nat.ne_of_lt known)
  | _ => rfl

section

variable (site moduleId source root)

/-- A computation whose steps are orderly and which closes every function that it opens. -/
def Closes {α : Type} (pending : List ValueId) (P : List Step → Prop) (action : StateM Walk α)
    (Q : α → List Step → Prop) : Prop :=
  Contract site moduleId (Orderly site moduleId source root)
    (fun steps => ClosedBut site moduleId source root pending steps ∧ P steps) action
    fun answer steps => ClosedBut site moduleId source root pending steps ∧ Q answer steps

end

variable {α β : Type} {P : List Step → Prop}

namespace Closes

variable {Q : α → List Step → Prop}

theorem pure {answer : α} (holds : ∀ steps, P steps → Q answer steps) :
    Closes site moduleId source root pending P (Pure.pure answer) Q :=
  Maintains.pure holds

theorem bind {first : StateM Walk α} {next : α → StateM Walk β} {R : β → List Step → Prop}
    (h : Closes site moduleId source root pending P first Q)
    (rest : ∀ a, Closes site moduleId source root pending (Q a) (next a) R) :
    Closes site moduleId source root pending P (first >>= next) R :=
  Maintains.bind h rest

theorem consequence {P' : List Step → Prop} {Q' : α → List Step → Prop} {action : StateM Walk α}
    (h : Closes site moduleId source root pending P action Q) (pre : ∀ steps, P' steps → P steps)
    (post : ∀ a steps, Q a steps → Q' a steps) :
    Closes site moduleId source root pending P' action Q' :=
  Maintains.consequence h pre post

/-- What needs nothing may start anywhere. -/
theorem anywhere {action : StateM Walk α}
    (h : Closes site moduleId source root pending (fun _ => True) action Q) :
    Closes site moduleId source root pending P action Q :=
  Maintains.anywhere h

theorem forget {action : StateM Walk α}
    (h : Closes site moduleId source root pending P action Q) :
    Closes site moduleId source root pending P action fun _ _ => True :=
  Maintains.forget h

/-- What more steps cannot undo is kept. -/
theorem frame {action : StateM Walk α} {F : List Step → Prop}
    (h : Closes site moduleId source root pending P action Q)
    (stable : ∀ earlier later, earlier <+: later → F earlier → F later) :
    Closes site moduleId source root pending (fun steps => P steps ∧ F steps) action
      fun a steps => Q a steps ∧ F steps :=
  Maintains.frame h stable

theorem perform {step : Step} {Q : Unit → List Step → Prop} (other : step.opensFunction = false)
    (h : ∀ steps, Lawful (Orderly site moduleId source root) steps → P steps →
      Orderly site moduleId source root steps step ∧ Q () (steps ++ [step])) :
    Closes site moduleId source root pending P (perform site step) Q :=
  Contract.perform fun steps lawful start =>
    have done := h steps lawful start.2
    ⟨done.1, start.1.concat other, done.2⟩

theorem current {next : ModuleDocs → StateM Walk β} {R : β → List Step → Prop}
    (h : ∀ steps, P steps → Closes site moduleId source root pending (fun later => later = steps)
      (next (ModuleDocs.ofSteps site moduleId steps)) R) :
    Closes site moduleId source root pending P (Walk.current >>= next) R :=
  Maintains.current h

end Closes

theorem closes_create_other (type : Text) :
    Closes site moduleId source root pending (fun _ => True) (create site type none)
      fun value steps => Settled site moduleId steps value :=
  Contract.create fun _ _ start =>
    ⟨trivial, start.1.concat rfl, .new rfl (fun _ mem => absurd mem List.not_mem_nil) rfl⟩

theorem closes_publish (key : Text) (value : ValueId)
    (stable : ∀ steps step, P steps → (∀ function, step.parameterName? function = none) →
      P (steps ++ [step])) :
    Closes site moduleId source root pending P (publish site key value) fun _ => P :=
  Contract.publish fun _ _ start => ⟨trivial, trivial, (start.1.concat rfl).concat rfl,
    stable _ _ (stable _ _ start.2 fun _ => rfl) fun _ => rfl⟩

/-- Naming a function keeps what depends on literals and parameters alone. -/
theorem closes_nameFunction (frame : Option Frame) (isDeclaration : Bool) (value : ValueId)
    (key : Option Text)
    (stable : ∀ steps step, P steps → (∀ function, step.parameterName? function = none) →
      P (steps ++ [step])) :
    Closes site moduleId source root pending P (nameFunction site frame isDeclaration value key)
      fun _ => P := by
  cases key with
  | none => exact .pure fun _ start => start
  | some key =>
    simp only [nameFunction]
    split
    · exact closes_publish key value stable
    · exact .perform rfl fun _ _ start => ⟨trivial, stable _ _ start fun _ => rfl⟩

/-- A literal has been evaluated to a function whose parameters so far have these names. -/
structure Named (site : Site) (moduleId : Text) (here : Occurrence) (function : ValueId)
    (names : List Text) (steps : List Step) : Prop where
  created : Created site moduleId steps (some here) function
  names_eq : steps.filterMap (Step.parameterName? function) = names

theorem Named.concat {here : Occurrence} {function : ValueId} {names : List Text} {step : Step}
    (named : Named site moduleId here function names steps)
    (other : step.parameterName? function = none) :
    Named site moduleId here function names (steps ++ [step]) where
  created := named.created.mono (List.prefix_append _ _)
  names_eq := by simp [List.filterMap_append, named.names_eq, other]

/-- The parameters of a function are added under its names, in order, and documented. -/
theorem closes_addParameters {around : Frame} {done rest : List Parameter}
    (whole : root.parametersAt source around.here.place = done ++ rest) :
    Closes site moduleId source root pending
      (fun steps => Named site moduleId around.here around.value (done.map (·.name)) steps ∧
        ∀ parameter ∈ done, Added steps around parameter)
      (addParameters site around rest)
      fun _ steps => Created site moduleId steps (some around.here) around.value ∧
        ∀ parameter ∈ done ++ rest, Added steps around parameter := by
  induction rest generalizing done with
  | nil =>
    rw [addParameters, List.append_nil]
    exact .pure fun _ start => ⟨start.1.created, start.2⟩
  | cons parameter rest ih =>
    have split : done ++ parameter :: rest = (done ++ [parameter]) ++ rest := by simp
    rw [addParameters, split]
    refine Contract.with_entry fun entry lawful start => ?_
    obtain ⟨closed, named, added⟩ := start
    refine Contract.bind (Q := fun id steps =>
      steps = entry ++ [.create ModelType.any none] ∧
        (ModuleDocs.ofSteps site moduleId entry).store.nextId = id) (.create ?_) fun id => ?_
    · rintro _ _ rfl
      exact ⟨trivial, rfl, rfl⟩
    let adding := Step.addParameter around.value parameter.name id
    have unnamed : Named site moduleId around.here around.value (done.map (·.name))
        (entry ++ [.create ModelType.any none]) := named.concat rfl
    refine Contract.bind (Q := fun _ steps =>
      steps = entry ++ [.create ModelType.any none] ++ [adding]) (.perform ?_) fun _ => ?_
    · rintro _ _ ⟨rfl, fresh⟩
      refine ⟨⟨⟨entry, rfl, fresh⟩, around.here, unnamed.created, ?_⟩, rfl⟩
      rw [unnamed.names_eq, whole]
      exact ⟨rest.map (·.name), by simp⟩
    refine Contract.bind (Q := fun _ steps =>
      ClosedBut site moduleId source root pending steps ∧
        Named site moduleId around.here around.value ((done ++ [parameter]).map (·.name)) steps ∧
          ∀ other ∈ done ++ [parameter], Added steps around other) (.perform ?_) fun _ =>
      ih (by rw [whole, split])
    rintro _ _ rfl
    refine ⟨.inr ⟨_, around, parameter, rfl, rfl, rfl⟩, ?closed, ?named, ?added⟩
    case closed => exact ((closed.concat rfl).concat rfl).concat rfl
    case named =>
      have added : Step.parameterName? around.value adding = some parameter.name := if_pos rfl
      refine Named.concat ⟨unnamed.created.mono (List.prefix_append _ _), ?_⟩ rfl
      rw [List.filterMap_append, unnamed.names_eq, List.map_append, List.filterMap_cons_some added]
      rfl
    case added =>
      intro other mem
      rcases List.mem_append.mp mem with old | new
      · refine (added other old).mono ?_
        rw [List.append_assoc, List.append_assoc]
        exact List.prefix_append _ _
      · obtain rfl := List.mem_singleton.mp new
        refine ⟨entry ++ [.create ModelType.any none], id, ?_⟩
        rw [List.append_assoc _ [adding]]
        exact List.prefix_refl _

/-- A visit of a node closes every function that it opens, and its answer is settled. -/
def VisitCloses (site : Site) (moduleId source : Text) (root : Tree) (located : Located) : Prop :=
  ∀ pending frame owner, Closes site moduleId source root pending (fun _ => True)
    (visit site frame owner (located.construct source))
    fun answer steps => ∀ value, answer = some value → Settled site moduleId steps value

section

variable {frame : Option Frame} {owner : Option ValueId} {nodes : List Located}

theorem closes_nothing : Closes site moduleId source root pending P
    (pure none : StateM Walk (Option ValueId))
    fun answer steps => ∀ value, answer = some value → Settled site moduleId steps value :=
  .pure fun _ _ value answered => absurd answered.symm (Option.some_ne_none value)

theorem closes_visitAll (each : ∀ node ∈ nodes, VisitCloses site moduleId source root node) :
    Closes site moduleId source root pending (fun _ => True)
      (visitAll site frame owner (nodes.map (Located.construct source))) fun _ _ => True := by
  induction nodes with
  | nil =>
    rw [List.map_nil, visitAll]
    exact .pure fun _ _ => trivial
  | cons node rest ih =>
    rw [List.map_cons, visitAll]
    refine (each node List.mem_cons_self pending frame owner).bind fun _ => ?_
    exact (ih fun other mem => each other (List.mem_cons_of_mem _ mem)).anywhere

theorem closes_visitArguments (each : ∀ node ∈ nodes, VisitCloses site moduleId source root node) :
    Closes site moduleId source root pending (fun _ => True)
      (visitArguments site frame owner (nodes.map (Located.construct source))) fun _ _ => True := by
  induction nodes with
  | nil =>
    rw [List.map_nil, visitArguments]
    exact .pure fun _ _ => trivial
  | cons node rest ih =>
    rw [List.map_cons, visitArguments]
    refine (each node List.mem_cons_self pending frame owner).bind fun _ => ?_
    refine Closes.bind (Q := fun _ _ => True) ?_ fun _ => .pure fun _ _ => trivial
    exact (ih fun other mem => each other (List.mem_cons_of_mem _ mem)).anywhere

theorem closes_visitOptional {child : Option Located}
    (each : ∀ node ∈ child, VisitCloses site moduleId source root node) :
    Closes site moduleId source root pending (fun _ => True)
      (visitOptional site frame owner (child.map (Located.construct source))) fun _ _ => True := by
  cases child with
  | none =>
    rw [Option.map_none, visitOptional]
    exact .pure fun _ _ => trivial
  | some node =>
    rw [Option.map_some, visitOptional]
    exact (each node rfl pending frame owner).bind fun _ => .pure fun _ _ => trivial

/-- A value that an expression comes to is settled. -/
theorem closes_valueOf {node : Located} (each : VisitCloses site moduleId source root node) :
    Closes site moduleId source root pending (fun _ => True)
      (valueOf site (node.construct source) (visit site frame owner (node.construct source)))
      fun value steps => Settled site moduleId steps value := by
  unfold valueOf
  refine .current fun entry _ => ?_
  split
  · rename_i id known
    refine .pure ?_
    rintro _ rfl
    unfold known? at known
    split at known
    · exact .bound known
    · cases known
  · refine Closes.bind (each pending frame owner).anywhere fun answer => ?_
    cases answer with
    | some id => exact .pure fun _ settled => settled id rfl
    | none => exact (closes_create_other _).anywhere

theorem closes_visitValue {child : Option Located}
    (each : ∀ node ∈ child, VisitCloses site moduleId source root node) :
    Closes site moduleId source root pending (fun _ => True)
      (visitValue site frame owner (child.map (Located.construct source)))
      fun value steps => Settled site moduleId steps value := by
  cases child with
  | none =>
    rw [Option.map_none, visitValue]
    exact closes_create_other _
  | some node =>
    rw [Option.map_some, visitValue]
    exact closes_valueOf (each node rfl)

variable {value : ValueId}

/-- A step that binds neither a name nor a parameter leaves a value settled. -/
theorem closes_quiet {step : Step} (quiet : step.isQuiet) (other : step.opensFunction = false)
    (orderly : ∀ steps, Settled site moduleId steps value →
      Orderly site moduleId source root steps step) :
    Closes site moduleId source root pending (Settled site moduleId · value) (perform site step)
      fun _ steps => Settled site moduleId steps value :=
  .perform other fun steps _ settled => ⟨orderly steps settled, settled.concat quiet⟩

/-- The comment of a node that is no literal documents a settled value. -/
theorem closes_document {here : Occurrence}
    (other : ¬ (here.node.kind = .function ∨ here.node.kind = .object)) (frame : Option Frame) :
    Closes site moduleId source root pending (Settled site moduleId · value)
      (perform site (.document here value frame)) fun _ _ => True :=
  Closes.forget (closes_quiet rfl rfl fun _ settled =>
    .inl ⟨settled, fun literal => absurd literal other⟩)

theorem closes_addMember (object : ValueId) (key : Option Text) :
    Closes site moduleId source root pending (Settled site moduleId · value)
      (addMember site object key value) fun _ steps => Settled site moduleId steps value := by
  unfold addMember
  split
  · exact .pure fun _ settled => settled
  · exact .pure fun _ settled => settled
  · exact closes_quiet rfl rfl fun _ settled => settled

theorem closes_assign (target : Target) :
    Closes site moduleId source root pending (Settled site moduleId · value)
      (assign site value target) fun _ _ => True := by
  cases target with
  | other => exact .pure fun _ _ => trivial
  | «variable» key =>
    exact (closes_publish key value fun _ _ _ _ => trivial).anywhere
  | member path =>
    simp only [assign]
    refine .current fun steps settled => ?_
    split
    · exact .pure fun _ _ => trivial
    · rename_i object _
      have named : Closes site moduleId source root pending (Settled site moduleId · value)
          (perform site (.name value (path.getLastD [])))
          fun _ steps => Settled site moduleId steps value :=
        closes_quiet rfl rfl fun _ _ => trivial
      refine Closes.bind (named.consequence ?_ fun _ _ settled => settled) fun _ => ?_
      · rintro _ rfl
        exact settled
      · exact Closes.forget (closes_quiet rfl rfl fun _ settled => settled)

theorem closes_exportFrom (frame : Option Frame) (callee : Text)
    (arguments : List (Option ValueId)) :
    Closes site moduleId source root pending (fun _ => True)
      (exportFrom site frame callee arguments) fun _ _ => True := by
  unfold exportFrom
  split
  · refine .current fun steps _ => ?_
    dsimp only
    split
    · exact .perform rfl fun _ _ _ => ⟨trivial, trivial⟩
    · exact .pure fun _ _ => trivial
  · exact .pure fun _ _ => trivial

variable {located : Located}

/-- The visits of all nodes below a node close the functions that they open. -/
def ClosesBelow (site : Site) (moduleId source : Text) (root : Tree) (located : Located) : Prop :=
  ∀ node : Located, sizeOf node.tree < sizeOf located.tree → node.At root →
    VisitCloses site moduleId source root node

theorem ClosesBelow.child {child : Located} (here : located.At root)
    (deep : ClosesBelow site moduleId source root located) (mem : child ∈ located.children) :
    VisitCloses site moduleId source root child :=
  deep child (Located.sizeOf_lt_of_mem_children mem) (here.of_mem_children mem)

theorem ClosesBelow.of_mem_children {child : Located}
    (deep : ClosesBelow site moduleId source root located) (mem : child ∈ located.children) :
    ClosesBelow site moduleId source root child :=
  fun node small there =>
    deep node (Nat.lt_trans small (Located.sizeOf_lt_of_mem_children mem)) there

theorem ClosesBelow.part (here : located.At root)
    (deep : ClosesBelow site moduleId source root located) :
    ∀ node ∈ located.parts, VisitCloses site moduleId source root node :=
  fun _ mem => deep.child here (Located.mem_children_of_mem_parts mem)

theorem ClosesBelow.field (here : located.At root)
    (deep : ClosesBelow site moduleId source root located) (field : Text) :
    ∀ node ∈ located.child? field, VisitCloses site moduleId source root node :=
  fun _ found => deep.child here (Located.mem_children_of_child? found).1

theorem closes_visitBody (here : located.At root)
    (deep : ClosesBelow site moduleId source root located) (around : Frame) :
    Closes site moduleId source root pending (fun _ => True)
      (visitBody site around (located.body source)) fun _ _ => True := by
  unfold Located.body
  cases found : located.child? "body".toList with
  | none =>
    rw [visitBody]
    exact .pure fun _ _ => trivial
  | some body =>
    have mem := (Located.mem_children_of_child? found).1
    dsimp only
    split
    · rw [visitBody]
      exact closes_visitAll ((deep.of_mem_children mem).part (here.of_mem_children mem))
    · rw [visitBody]
      refine (closes_valueOf (deep.child here mem)).bind fun _ => ?_
      exact Closes.forget (closes_quiet rfl rfl fun _ settled => settled)

theorem closes_arguments (here : located.At root)
    (deep : ClosesBelow site moduleId source root located) :
    Closes site moduleId source root pending (fun _ => True)
      (visitArguments site frame owner (located.arguments source)) fun _ _ => True := by
  unfold Located.arguments
  cases found : located.child? "arguments".toList with
  | none =>
    rw [visitArguments]
    exact .pure fun _ _ => trivial
  | some list =>
    have mem := (Located.mem_children_of_child? found).1
    exact closes_visitArguments ((deep.of_mem_children mem).part (here.of_mem_children mem))

/-- A function is opened, its parameters are added, its body is visited, and it is closed. -/
theorem closes_function (here : located.At root)
    (form : Form.ofType located.tree.type = .function)
    (deep : ClosesBelow site moduleId source root located) (isDeclaration : Bool)
    (key : Option Text) :
    Closes site moduleId source root pending (fun _ => True)
      (visit site frame owner (.function (located.occurrence source) isDeclaration key
        (located.parameters source) (located.body source)))
      fun answer steps => ∀ value, answer = some value → Settled site moduleId steps value := by
  rw [visit]
  have parameters : root.parametersAt source (located.occurrence source).place =
      located.parameters source := by
    rw [Tree.parametersAt, Located.occurrence, here]
    rfl
  -- the function is open until it is documented
  refine Contract.bind (Q := fun id steps =>
    ClosedBut site moduleId source root (id :: pending) steps ∧
      Named site moduleId (located.occurrence source) id [] steps) (.create ?_) fun id => ?_
  · intro steps lawful start
    refine ⟨fun _ => ?_, start.1.open _, ⟨steps, _, List.prefix_refl _, rfl⟩, ?_⟩
    · simp only [Located.occurrence, Tree.toNode, kindOfType_eq, form]
    · rw [List.filterMap_append, parameterName?_eq_nil lawful (Nat.le_refl _)]
      rfl
  let own : Frame := ⟨located.occurrence source, id⟩
  have whole : root.parametersAt source own.here.place = [] ++ located.parameters source :=
    parameters
  have named : Closes site moduleId source root (id :: pending)
      (Named site moduleId (located.occurrence source) id [])
      (nameFunction site frame isDeclaration id key)
      fun _ => Named site moduleId (located.occurrence source) id [] :=
    closes_nameFunction frame isDeclaration id key fun _ _ named other => named.concat (other id)
  have added : Closes site moduleId source root (id :: pending)
      (Named site moduleId (located.occurrence source) id [])
      (addParameters site own (located.parameters source))
      fun _ steps => Created site moduleId steps (some own.here) id ∧
        ∀ parameter ∈ located.parameters source, Added steps own parameter :=
    (closes_addParameters whole).consequence
      (fun _ named => ⟨named, fun _ none => absurd none List.not_mem_nil⟩) fun _ _ done => done
  have stable (earlier later : List Step) (grown : earlier <+: later)
      (done : Created site moduleId earlier (some own.here) id ∧
        ∀ parameter ∈ located.parameters source, Added earlier own parameter) :
      Created site moduleId later (some own.here) id ∧
        ∀ parameter ∈ located.parameters source, Added later own parameter :=
    ⟨done.1.mono grown, fun parameter mem => (done.2 parameter mem).mono grown⟩
  have visited : Closes site moduleId source root (id :: pending) (fun _ => True)
      (visitBody site own (located.body source)) fun _ _ => True := closes_visitBody here deep own
  have body := visited.frame stable
  refine Contract.bind named fun _ => Contract.bind added fun _ => ?_
  refine Contract.bind (body.consequence (fun _ done => ⟨trivial, done⟩) fun _ _ done => done.2)
    fun _ => ?_
  refine Contract.bind (Q := fun _ steps => ClosedBut site moduleId source root pending steps ∧
    Created site moduleId steps (some own.here) id) (.perform ?_) fun _ => ?_
  · rintro steps - ⟨closed, created, added⟩
    rw [← parameters] at added
    exact ⟨.inl ⟨.literal created, fun _ => created⟩, closed.close created added frame,
      created.mono (List.prefix_append _ _)⟩
  · refine .pure fun steps done => ⟨done.1, ?_⟩
    rintro _ ⟨rfl⟩
    exact .literal done.2

theorem closes_visitMember {member : Located} (here : member.At root)
    (deep : ClosesBelow site moduleId source root member)
    (visited : VisitCloses site moduleId source root member) (around : Frame) :
    Closes site moduleId source root pending (fun _ => True)
      (visitMember site around (member.member source)) fun _ _ => True := by
  have bindMember (value : ValueId) {there : Occurrence} (property : there.node.kind = .property)
      (key : Option Text) : Closes site moduleId source root pending (Settled site moduleId · value)
        (do
          addMember site around.value key value
          perform site (.document there value (some around))) fun _ _ => True :=
    (closes_addMember around.value key).bind fun _ =>
      closes_document (by rw [property]; decide) (some around)
  unfold Located.member
  split_ifs with pair
  · rw [visitMember]
    have property : (member.occurrence source).node.kind = .property := by
      simp only [Located.occurrence, Tree.toNode, pair]
      decide
    exact (closes_visitValue (deep.field here _)).bind fun value => bindMember value property _
  · rw [visitMember]
    refine (visited pending (some around) none).bind fun answer => ?_
    cases answer with
    | none => exact .pure fun _ _ => trivial
    | some value =>
      exact (bindMember value rfl _).consequence (fun _ settled => settled value rfl)
        fun _ _ done => done
  · rw [visitMember]
    have bound (value : ValueId) : Closes site moduleId source root pending
        (Settled site moduleId · value)
        (perform site (.setProperty around.value (member.tree.text source) value))
        fun _ _ => True :=
      Closes.forget (closes_quiet rfl rfl fun _ settled => settled)
    refine .current fun entry _ => ?_
    dsimp only
    split
    · rename_i value known
      refine Closes.bind (.pure ?_) fun value => bound value
      rintro _ rfl
      exact .bound known
    · refine Closes.bind ?_ fun value => bound value
      exact (closes_create_other _).anywhere
  · rw [visitMember]
    exact (visited pending (some around) none).bind fun _ => .pure fun _ _ => trivial

theorem closes_visitMembers {members : List Located} (around : Frame)
    (each : ∀ member ∈ members, member.At root ∧
      ClosesBelow site moduleId source root member ∧ VisitCloses site moduleId source root member) :
    Closes site moduleId source root pending (fun _ => True)
      (visitMembers site around (members.map (Located.member source))) fun _ _ => True := by
  induction members with
  | nil =>
    rw [List.map_nil, visitMembers]
    exact .pure fun _ _ => trivial
  | cons member rest ih =>
    obtain ⟨here, deep, visited⟩ := each member List.mem_cons_self
    rw [List.map_cons, visitMembers]
    exact (closes_visitMember here deep visited around).bind fun _ =>
      ih fun other mem => each other (List.mem_cons_of_mem _ mem)

theorem closes_object (here : located.At root)
    (deep : ClosesBelow site moduleId source root located) :
    Closes site moduleId source root pending (fun _ => True)
      (visit site frame owner
        (.object (located.occurrence source) (located.parts.map (Located.member source))))
      fun answer steps => ∀ value, answer = some value → Settled site moduleId steps value := by
  rw [visit]
  refine Contract.bind (Q := fun id steps => ClosedBut site moduleId source root pending steps ∧
    Created site moduleId steps (some (located.occurrence source)) id) (.create ?_) fun id => ?_
  · exact fun steps _ start =>
      ⟨fun same => absurd same (by decide), start.1.concat rfl, steps, _, List.prefix_refl _, rfl⟩
  have members : Closes site moduleId source root pending (fun _ => True)
      (visitMembers site ⟨located.occurrence source, id⟩
        (located.parts.map (Located.member source))) fun _ _ => True := by
    refine closes_visitMembers _ fun member part => ?_
    have mem := Located.mem_children_of_mem_parts part
    exact ⟨here.of_mem_children mem, deep.of_mem_children mem, deep.child here mem⟩
  have stable (earlier later : List Step) (grown : earlier <+: later)
      (created : Created site moduleId earlier (some (located.occurrence source)) id) :
      Created site moduleId later (some (located.occurrence source)) id :=
    created.mono grown
  refine Contract.bind ((members.frame stable).consequence (fun _ created => ⟨trivial, created⟩)
    fun _ _ kept => kept.2) fun _ => ?_
  refine Closes.bind (Q := fun _ steps =>
    Created site moduleId steps (some (located.occurrence source)) id) (.perform rfl ?_) fun _ => ?_
  · exact fun steps _ created => ⟨.inl ⟨.literal created, fun _ => created⟩,
      created.mono (List.prefix_append _ _)⟩
  · refine .pure fun steps created => ?_
    rintro _ ⟨rfl⟩
    exact .literal created

theorem visitCloses (located : Located) (here : located.At root) :
    VisitCloses site moduleId source root located := by
  have deep : ClosesBelow site moduleId source root located :=
    fun node _ there => visitCloses node there
  intro pending frame owner
  rw [Located.construct_eq]
  cases form : Form.ofType located.tree.type with
  | function => exact closes_function here form deep _ _
  | object => exact closes_object here deep
  | returning =>
    dsimp only
    rw [visit]
    have argument : ∀ node ∈ located.parts.head?, VisitCloses site moduleId source root node :=
      fun node mem => deep.part here node (List.mem_of_mem_head? mem)
    have returning : (located.occurrence source).node.kind = .returning := by
      simp only [Located.occurrence, Tree.toNode, kindOfType_eq, form]
    refine (closes_visitValue argument).bind fun value => ?_
    have documented : Closes site moduleId source root pending (Settled site moduleId · value)
        (do perform site (.document (located.occurrence source) value frame); return none)
        fun answer steps => ∀ value, answer = some value → Settled site moduleId steps value :=
      (closes_document (by rw [returning]; decide) frame).bind fun _ => closes_nothing
    cases owner with
    | none => exact documented
    | some function =>
      exact Closes.bind (closes_quiet rfl rfl fun _ settled => settled) fun _ => documented
  | declarator =>
    dsimp only
    rw [visit]
    refine (closes_visitValue (deep.field here _)).bind fun value => ?_
    split
    · split
      · refine Closes.bind (Q := fun _ _ => True) ?_ fun _ => closes_nothing
        exact (closes_publish _ value fun _ _ _ _ => trivial).anywhere
      · exact closes_nothing
    · exact closes_nothing
  | assignment =>
    dsimp only
    rw [visit]
    refine (closes_visitValue (deep.field here _)).bind fun value => ?_
    split
    · exact (closes_assign _).bind fun _ => closes_nothing
    · exact closes_nothing
  | call =>
    dsimp only
    rw [visit]
    have called : ∀ node ∈ (located.child? "function".toList).filter fun callee =>
        !callee.isIdentifier, VisitCloses site moduleId source root node :=
      fun node found => deep.field here _ node (Option.filter_eq_some_iff.mp found).1
    refine (closes_arguments here deep).bind fun values => ?_
    refine (closes_visitOptional called).bind fun _ => ?_
    exact (closes_exportFrom frame _ values).bind fun _ => closes_nothing
  | identifier =>
    dsimp only
    rw [visit]
    exact (closes_visitAll (deep.part here)).bind fun _ => closes_nothing
  | other =>
    dsimp only
    rw [visit]
    exact (closes_visitAll (deep.part here)).bind fun _ => closes_nothing
termination_by sizeOf located.tree

end

/-- The steps of a walk are orderly, and no function is open at its end. -/
theorem closing_ofSource (moduleId source : Text) (tree : Tree) :
    Sound (siteOf source tree) moduleId (Orderly (siteOf source tree) moduleId source tree)
        (ofSource moduleId source tree) ∧
      ClosedBut (siteOf source tree) moduleId source tree []
        (ofSource moduleId source tree).history := by
  let program : Located := ⟨[], tree⟩
  have there : program.At tree := rfl
  have read : Construct.topLevel source tree = program.parts.map (Located.construct source) :=
    Located.partsOf_eq program
  have deep : ClosesBelow (siteOf source tree) moduleId source tree program :=
    fun node _ here => visitCloses node here
  have closes : Closes (siteOf source tree) moduleId source tree [] (fun _ => True)
      (visitAll (siteOf source tree) none none (Construct.topLevel source tree))
      fun _ _ => True := by
    rw [read]
    exact closes_visitAll (deep.part there)
  have start : ClosedBut (siteOf source tree) moduleId source tree [] [] :=
    fun before here opened => absurd opened (by simp)
  obtain ⟨sound, -, closed, -⟩ := closes { docs := { moduleId } } ⟨rfl, .nil⟩ ⟨start, trivial⟩
  exact ⟨sound, closed⟩

end Walk

end CommentDocs
