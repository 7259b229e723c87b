import CommentDocs.Proofs.Module.Isolation
import CommentDocs.Proofs.Syntax.Located

/-!
# Where used values were evaluated

A walk publishes values, binds them as properties and gives them as returns. Unless a function
declaration publishes itself, such a value is what some expression has just come to, and the
expression stands at a node that gives its value to this step. A name comes to the value that it is
bound to, a literal to the value with which it has just been documented, and any other expression
to a value that was made last. So a value is used at the moment at which it is evaluated, or it is
found again by a name.

This module says so for one step, and shows it for the small parts of a walk.
-/

namespace CommentDocs

open Binding Syntax
open ModuleDocs (Step)

namespace Syntax

namespace Member

def key? : Member → Option Text
  | .pair here _ => here.node.keyName.filter (· ≠ [])
  | .method here _ => here.node.keyName.filter (· ≠ [])
  | .shorthand name => some name
  | .other _ => none

/-- The node at which the value of a member is documented. -/
def documented? : Member → Option Occurrence
  | .pair here _ => some here
  | .method here _ => some here
  | _ => none

def expression : Member → Option Construct
  | .pair _ value => value
  | .method _ function => some function
  | .shorthand name => some (.identifier name [])
  | .other construct => some construct

end Member

/-- A step uses the value of an expression of a construct. -/
inductive Construct.Gives : Construct → Step → Option Construct → Prop
  | returned {here : Occurrence} {argument : Option Construct} (function value : ValueId) :
      Gives (.returning here argument) (.appendReturn function value (some here)) argument
  | returnedBody {here : Occurrence} {isDeclaration : Bool} {name : Option Text}
      {parameters : List Parameter} {body : Construct} (function value : ValueId) :
      Gives (.function here isDeclaration name parameters (.expression body))
        (.appendReturn function value none) (some body)
  | declared {name : Text} {expression : Option Construct} (value : ValueId) :
      Gives (.declarator (some name) expression) (.publish name value) expression
  | assigned {name : Text} {expression : Option Construct} (value : ValueId) :
      Gives (.assignment (.variable name) expression) (.publish name value) expression
  | assignedMember {path : List Text} {expression : Option Construct} (holder value : ValueId) :
      Gives (.assignment (.member path) expression) (.setProperty holder (path.getLastD []) value)
        expression
  | bound {here : Occurrence} {members : List Member} {member : Member} {key : Text}
      (mem : member ∈ members) (keyed : member.key? = some key) (holder value : ValueId) :
      Gives (.object here members) (.setProperty holder key value) member.expression
  | documentedReturn {here : Occurrence} {argument : Option Construct} (value : ValueId)
      (frame : Option Frame) :
      Gives (.returning here argument) (.document here value frame) argument
  | documentedMember {here there : Occurrence} {members : List Member} {member : Member}
      (mem : member ∈ members) (documented : member.documented? = some there) (value : ValueId)
      (frame : Option Frame) :
      Gives (.object here members) (.document there value frame) member.expression

namespace Tree

/-- A step uses the value of an expression at a node of the tree. -/
def Gives (source : Text) (root : Tree) (step : Step) (expression : Option Construct) : Prop :=
  ∃ located : Located, located.At root ∧ (located.construct source).Gives step expression

def membersAt (source : Text) (root : Tree) (place : Place) : List Member :=
  ((root.nodeAt? place).map fun found =>
    (⟨place, found⟩ : Located).parts.map (Located.member source)).getD []

/-- Functions that are declared at a place publish their names: no literal is around it, or the
innermost one is a function. -/
def OpenAt (root : Tree) (place : Place) : Prop :=
  ∀ outer, root.enclosing? place = some outer → root.formAt? outer = some .function

end Tree

end Syntax

/-- A step that uses a value, or names it before. -/
def ModuleDocs.Step.isUse : Step → Bool
  | .name _ _ => true
  | .setProperty _ _ _ => true
  | .appendReturn _ _ _ => true
  | _ => false

namespace Walk

section

variable (site : Site) (moduleId source : Text) (root : Tree)

/-- An expression in a frame has just come to a value. A name that is not in scope comes to a new
value. -/
inductive Evaluated (steps : List Step) (frame : Option Frame) : Option Construct → ValueId → Prop
  | name {name : Text} {parts : List Construct} {value : ValueId}
      (bound :
        (ModuleDocs.ofSteps site moduleId steps).store.lookup? site.scope name = some value) :
      Evaluated steps frame (some (.identifier name parts)) value
  | literal {construct : Construct} {here : Occurrence} {before : List Step} {value : ValueId}
      (spelled : construct.literal? = some here)
      (created : Created site moduleId before (some here) value)
      (last : steps = before ++ [.document here value frame]) :
      Evaluated steps frame (some construct) value
  | new {expression : Option Construct} {before : List Step} {type : Text} {value : ValueId}
      (last : steps = before ++ [.create type none])
      (fresh : (ModuleDocs.ofSteps site moduleId before).store.nextId = value)
      (plain : ∀ construct ∈ expression, construct.literal? = none)
      (unbound : ∀ name parts, expression = some (.identifier name parts) → ∃ earlier,
        earlier <+: before ∧
          (ModuleDocs.ofSteps site moduleId earlier).store.lookup? site.scope name = none) :
      Evaluated steps frame expression value

/-- An expression has come to a value, and only uses of it followed. -/
def Traced (steps : List Step) (expression : Option Construct) (value : ValueId) : Prop :=
  ∃ evaluated uses frame, steps = evaluated ++ uses ∧ (∀ step ∈ uses, step.isUse) ∧
    Evaluated site moduleId evaluated frame expression value

/-- A step uses a value that an expression at one of its nodes has come to. -/
def Given (steps : List Step) (step : Step) (value : ValueId) : Prop :=
  ∃ expression, root.Gives source step expression ∧ Traced site moduleId steps expression value

/-- A value belongs to a function that is declared where names are published. -/
def Declared (steps : List Step) (value : ValueId) : Prop :=
  ∃ here, Created site moduleId steps (some here) value ∧ here.node.kind = .function ∧
    root.OpenAt here.place

/-- A member of an object literal was bound and documented right after it was evaluated. -/
def BoundMember (steps : List Step) (around : Frame) (member : Member) : Prop :=
  ∀ key there, member.key? = some key → member.documented? = some there → ∃ before value,
    before ++ [.setProperty around.value key value, .document there value (some around)] <+: steps ∧
      Evaluated site moduleId before (some around) member.expression value

/-- Where the values of steps come from. Values of literals are documented at the literals, those
of object literals after all members. -/
def Accounted (steps : List Step) : Step → Prop
  | .publish name value =>
    Declared site moduleId root steps value ∨
      Given site moduleId source root steps (.publish name value) value
  | .setProperty holder key value =>
    Given site moduleId source root steps (.setProperty holder key value) value
  | .appendReturn function value statement =>
    Given site moduleId source root steps (.appendReturn function value statement) value
  | .document here value frame =>
    (Created site moduleId steps (some here) value ∧
      (here.node.kind = .object → ∀ member ∈ root.membersAt source here.place,
        BoundMember site moduleId steps ⟨here, value⟩ member)) ∨
      Given site moduleId source root steps (.document here value frame) value ∨
      ∃ before function key, steps = before ++ [.addParameter function key value]
  | _ => True

/-- A property was bound after some steps: by an assignment, to what a path reached, or by a member
of an object literal, which then documented its value. -/
def Attribution (steps before : List Step) (holder : ValueId) (key : Text) (value : ValueId) :
    Prop :=
  (∃ earlier path, earlier <+: before ∧
    (ModuleDocs.ofSteps site moduleId earlier).store.reach? site.scope path = some holder) ∨
  ∃ here member, Created site moduleId before (some here) holder ∧
    member ∈ root.membersAt source here.place ∧ member.key? = some key ∧
      ∀ there, member.documented? = some there →
        before ++ [.setProperty holder key value, .document there value (some ⟨here, holder⟩)] <+:
          steps

/-- All properties that were bound are accounted for. -/
def Attributed (steps : List Step) : Prop :=
  ∀ before holder key value, before ++ [.setProperty holder key value] <+: steps →
    Attribution site moduleId source root steps before holder key value

/-- A computation whose steps use evaluated values, and which leaves all properties attributed. -/
abbrev Accounts {α : Type} (P : List Step → Prop) (action : StateM Walk α)
    (Q : α → List Step → Prop) : Prop :=
  Maintains site moduleId (Accounted site moduleId source root)
    (Attributed site moduleId source root) P action Q

/-- What a visit answers: the value of a literal that has just been documented. -/
def AnswersEvaluated (frame : Option Frame) (construct : Construct) (answer : Option ValueId)
    (steps : List Step) : Prop :=
  match answer with
  | some value => Evaluated site moduleId steps frame (some construct) value
  | none => construct.literal? = none

end

variable {site : Site} {moduleId source : Text} {root : Tree} {steps later : List Step}
variable {expression : Option Construct} {value : ValueId} {step : Step}

theorem Traced.of_evaluated {frame : Option Frame}
    (evaluated : Evaluated site moduleId steps frame expression value) :
    Traced site moduleId steps expression value :=
  ⟨steps, [], frame, (List.append_nil steps).symm, fun _ none => absurd none List.not_mem_nil,
    evaluated⟩

theorem Traced.concat (use : step.isUse) (traced : Traced site moduleId steps expression value) :
    Traced site moduleId (steps ++ [step]) expression value := by
  obtain ⟨evaluated, uses, frame, rfl, all, come⟩ := traced
  refine ⟨evaluated, uses ++ [step], frame, List.append_assoc .., fun other mem => ?_, come⟩
  rcases List.mem_append.mp mem with old | new
  · exact all other old
  · exact List.mem_singleton.mp new ▸ use

theorem BoundMember.mono (grown : steps <+: later) {around : Frame} {member : Member}
    (bound : BoundMember site moduleId steps around member) :
    BoundMember site moduleId later around member := by
  intro key there keyed documented
  obtain ⟨before, value, done, evaluated⟩ := bound key there keyed documented
  exact ⟨before, value, done.trans grown, evaluated⟩

theorem Attribution.mono (grown : steps <+: later) {before : List Step} {holder : ValueId}
    {key : Text}
    (attribution : Attribution site moduleId source root steps before holder key value) :
    Attribution site moduleId source root later before holder key value := by
  refine attribution.imp_right ?_
  rintro ⟨here, member, created, mem, keyed, documented⟩
  exact ⟨here, member, created, mem, keyed, fun there found => (documented there found).trans grown⟩

theorem Attributed.concat (other : ∀ holder key value, step ≠ .setProperty holder key value)
    (attributed : Attributed site moduleId source root steps) :
    Attributed site moduleId source root (steps ++ [step]) := by
  intro before holder key value taken
  rcases List.prefix_concat_iff.mp taken with last | earlier
  · exact absurd (List.singleton_inj.mp (List.append_inj' last rfl).2).symm (other _ _ _)
  · exact (attributed before holder key value earlier).mono (List.prefix_append _ _)

/-- One more property is bound, and some steps follow that bind none. -/
theorem Attributed.bind {holder : ValueId} {key : Text} {rest : List Step}
    (silent : ∀ step ∈ rest, ∀ holder key value, step ≠ .setProperty holder key value)
    (attribution : Attribution site moduleId source root
      (steps ++ .setProperty holder key value :: rest) steps holder key value)
    (attributed : Attributed site moduleId source root steps) :
    Attributed site moduleId source root (steps ++ .setProperty holder key value :: rest) := by
  intro before object name target taken
  have here : steps ++ [.setProperty holder key value] <+:
      steps ++ .setProperty holder key value :: rest := ⟨rest, by simp⟩
  rcases point_cases taken here with earlier | ⟨rfl, same⟩ | later
  · exact (attributed before object name target earlier).mono (List.prefix_append _ _)
  · cases same
    exact attribution
  · obtain ⟨between, rfl⟩ := later
    have mem : Step.setProperty object name target ∈ rest := by
      obtain ⟨after, whole⟩ := taken
      have split : between ++ [Step.setProperty object name target] ++ after = rest := by
        simpa using whole
      simp [← split]
    exact absurd rfl (silent _ mem object name target)

variable {α : Type} {P : List Step → Prop}

/-- A step that binds no property. -/
theorem accounts_perform {Q : Unit → List Step → Prop}
    (other : ∀ holder key value, step ≠ .setProperty holder key value)
    (h : ∀ steps, P steps →
      Accounted site moduleId source root steps step ∧ Q () (steps ++ [step])) :
    Accounts site moduleId source root P (perform site step) Q := by
  refine Maintains.perform fun steps _ attributed start => ?_
  obtain ⟨accounted, done⟩ := h steps start
  exact ⟨accounted, attributed.concat other, done⟩

/-- A step after a value was evaluated that uses it, but binds no property. -/
theorem accounts_use (use : step.isUse)
    (other : ∀ holder key value, step ≠ .setProperty holder key value)
    (accounted : ∀ steps, Traced site moduleId steps expression value →
      Accounted site moduleId source root steps step) :
    Accounts site moduleId source root (Traced site moduleId · expression value) (perform site step)
      fun _ steps => Traced site moduleId steps expression value :=
  accounts_perform other fun steps traced => ⟨accounted steps traced, traced.concat use⟩

theorem accounts_create {type : Text} {here : Option Occurrence} {Q : ValueId → List Step → Prop}
    (h : ∀ steps, P steps → Q (ModuleDocs.ofSteps site moduleId steps).store.nextId
      (steps ++ [.create type here])) :
    Accounts site moduleId source root P (create site type here) Q := by
  refine Contract.create fun steps _ start => ?_
  exact ⟨trivial, start.1.concat fun _ _ _ => Step.noConfusion, h steps start.2⟩

/-- A value is published by what gives it, or by a function that declares itself. -/
theorem accounts_publish {name : Text}
    (h : ∀ steps, P steps → Accounted site moduleId source root (steps ++ [.name value name])
      (.publish name value)) :
    Accounts site moduleId source root P (publish site name value) fun _ _ => True := by
  refine Contract.publish fun steps _ start => ⟨trivial, h steps start.2, ?_, trivial⟩
  exact (start.1.concat fun _ _ _ => Step.noConfusion).concat fun _ _ _ => Step.noConfusion

/-- The value of an expression is published at a node that gives it. -/
theorem accounts_publish_given {name : Text}
    (given : root.Gives source (.publish name value) expression) :
    Accounts site moduleId source root (Traced site moduleId · expression value)
      (publish site name value) fun _ _ => True :=
  accounts_publish fun _ traced => .inr ⟨expression, given, traced.concat rfl⟩

/-- A function that is declared where names are published may publish its own. -/
theorem accounts_nameFunction {here : Occurrence} (frame : Option Frame) (isDeclaration : Bool)
    (name : Option Text) (function : here.node.kind = .function)
    (opened : isOpen frame → root.OpenAt here.place) :
    Accounts site moduleId source root (Created site moduleId · (some here) value)
      (nameFunction site frame isDeclaration value name) fun _ _ => True := by
  cases name with
  | none => exact Maintains.pure fun _ _ => trivial
  | some name =>
    simp only [nameFunction]
    split
    · rename_i declared
      have declares := (Bool.and_eq_true _ _ ▸ declared : isDeclaration ∧ isOpen frame)
      exact accounts_publish fun steps created =>
        .inl ⟨here, created.mono (List.prefix_append _ _), function, opened declares.2⟩
    · exact accounts_perform (fun _ _ _ => Step.noConfusion) fun _ _ => ⟨trivial, trivial⟩

/-- A parameter is documented right after it was added. -/
theorem accounts_addParameters (around : Frame) (parameters : List Parameter) :
    Accounts site moduleId source root (fun _ => True) (addParameters site around parameters)
      fun _ _ => True := by
  induction parameters with
  | nil => exact Maintains.pure fun _ _ => trivial
  | cons parameter rest ih =>
    rw [addParameters]
    refine Maintains.bind (Q := fun _ _ => True) (accounts_create fun _ _ => trivial) fun id => ?_
    refine Maintains.bind (Q := fun _ steps => ∃ before,
      steps = before ++ [.addParameter around.value parameter.name id]) ?_ fun _ => ?_
    · exact accounts_perform (fun _ _ _ => Step.noConfusion) fun steps _ => ⟨trivial, steps, rfl⟩
    refine Maintains.bind (Q := fun _ _ => True) ?_ fun _ => ih
    refine accounts_perform (fun _ _ _ => Step.noConfusion) ?_
    rintro _ ⟨before, rfl⟩
    exact ⟨.inr (.inr ⟨before, _, _, rfl⟩), trivial⟩

/-- An assignment publishes the value of its expression or binds it as a property. -/
theorem accounts_assign {located : Located} {target : Target} (here : located.At root)
    (construct : located.construct source = .assignment target expression) :
    Accounts site moduleId source root (Traced site moduleId · expression value)
      (assign site value target) fun _ _ => True := by
  cases target with
  | other => exact Maintains.pure fun _ _ => trivial
  | «variable» name =>
    exact accounts_publish_given ⟨located, here, construct ▸ .assigned value⟩
  | member path =>
    simp only [assign]
    refine Maintains.current fun entry traced => ?_
    split
    · exact Maintains.pure fun _ _ => trivial
    · rename_i holder reached
      have named : Accounts site moduleId source root (· = entry)
          (perform site (.name value (path.getLastD []))) fun _ steps =>
            entry <+: steps ∧ Traced site moduleId steps expression value := by
        refine accounts_perform (fun _ _ _ => Step.noConfusion) ?_
        rintro _ rfl
        exact ⟨trivial, List.prefix_append _ _, traced.concat rfl⟩
      refine Maintains.bind named fun _ => Maintains.perform ?_
      rintro steps _ attributed ⟨grown, traced⟩
      refine ⟨⟨expression, ⟨located, here, construct ▸ .assignedMember holder value⟩, traced⟩, ?_,
        trivial⟩
      exact attributed.bind (fun _ none => absurd none List.not_mem_nil)
        (.inl ⟨entry, path.dropLast, grown, reached⟩)

theorem accounts_exportFrom (frame : Option Frame) (callee : Text)
    (arguments : List (Option ValueId)) :
    Accounts site moduleId source root (fun _ => True) (exportFrom site frame callee arguments)
      fun _ _ => True := by
  unfold exportFrom
  split
  · refine Maintains.current fun _ _ => ?_
    dsimp only
    split
    · exact accounts_perform (fun _ _ _ => Step.noConfusion) fun _ _ => ⟨trivial, trivial⟩
    · exact Maintains.pure fun _ _ => trivial
  · exact Maintains.pure fun _ _ => trivial

/-- A member of an object literal binds its value and documents it. -/
theorem accounts_bindMember {located : Located} {around : Frame} {member : Member}
    {there : Occurrence} (here : located.At root)
    (object : located.construct source =
      .object around.here (root.membersAt source around.here.place))
    (mem : member ∈ root.membersAt source around.here.place)
    (keyed : member.key? = there.node.keyName.filter (· ≠ []))
    (documented : member.documented? = some there) :
    Accounts site moduleId source root (fun steps =>
        Evaluated site moduleId steps (some around) member.expression value ∧
          Created site moduleId steps (some around.here) around.value)
      (do
        addMember site around.value there.node.keyName value
        perform site (.document there value (some around)))
      fun _ steps => BoundMember site moduleId steps around member := by
  have gives : root.Gives source (.document there value (some around)) member.expression :=
    ⟨located, here, object ▸ .documentedMember mem documented value (some around)⟩
  -- a member without a key is documented only
  have unkeyed (none : member.key? = none) :
      Accounts site moduleId source root (fun steps =>
          Evaluated site moduleId steps (some around) member.expression value ∧
            Created site moduleId steps (some around.here) around.value)
        (perform site (.document there value (some around)))
        fun _ steps => BoundMember site moduleId steps around member := by
    refine accounts_perform (fun _ _ _ => Step.noConfusion) fun steps ⟨evaluated, _⟩ => ?_
    refine ⟨.inr (.inl ⟨_, gives, .of_evaluated evaluated⟩), fun key _ some => ?_⟩
    rw [none] at some
    cases some
  unfold addMember
  split
  · rename_i key
    rw [key] at keyed
    exact unkeyed keyed
  · rename_i key
    rw [key] at keyed
    exact unkeyed keyed
  · rename_i key nonempty named
    have keyed : member.key? = some key := by
      rw [keyed, named, Option.filter_some_pos]
      simpa using nonempty
    refine Contract.with_entry fun entry _ start => ?_
    obtain ⟨attributed, evaluated, created⟩ := start
    have traced := Traced.of_evaluated evaluated
    refine Contract.bind (Q := fun _ steps =>
      steps = entry ++ [.setProperty around.value key value]) (.perform ?_) fun _ => .perform ?_
    · rintro _ _ rfl
      exact ⟨⟨_, ⟨located, here, object ▸ .bound mem keyed around.value value⟩, traced⟩, rfl⟩
    · rintro _ _ rfl
      refine ⟨.inr (.inl ⟨_, gives, traced.concat rfl⟩), ?_, ?_⟩
      · rw [List.append_assoc]
        refine attributed.bind ?_ (.inr ⟨around.here, member, created, mem, keyed, ?_⟩)
        · rintro _ single _ _ _ rfl
          cases List.mem_singleton.mp single
        · intro other found
          cases Option.some.inj (documented.symm.trans found)
          exact List.prefix_refl _
      · intro name other again found
        cases Option.some.inj (keyed.symm.trans again)
        cases Option.some.inj (documented.symm.trans found)
        refine ⟨entry, value, ?_, evaluated⟩
        rw [List.append_assoc]
        exact List.prefix_refl _

/-- A name in an object literal binds its value under itself. -/
theorem accounts_bindName {located : Located} {around : Frame} {name : Text}
    (here : located.At root)
    (object : located.construct source =
      .object around.here (root.membersAt source around.here.place))
    (mem : .shorthand name ∈ root.membersAt source around.here.place) :
    Accounts site moduleId source root (fun steps =>
        Evaluated site moduleId steps (some around) (some (.identifier name [])) value ∧
          Created site moduleId steps (some around.here) around.value)
      (perform site (.setProperty around.value name value)) fun _ _ => True := by
  refine Maintains.perform fun steps _ attributed ⟨evaluated, created⟩ => ⟨?_, ?_, trivial⟩
  · exact ⟨_, ⟨located, here, object ▸ .bound mem rfl around.value value⟩, .of_evaluated evaluated⟩
  · exact attributed.bind (fun _ none => absurd none List.not_mem_nil)
      (.inr ⟨around.here, _, created, mem, rfl, fun _ none => nomatch none⟩)

end Walk

end CommentDocs
