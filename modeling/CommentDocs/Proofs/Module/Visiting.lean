import CommentDocs.Proofs.Module.Provenance

/-!
# Every step of a walk is justified

One contract for each way of visiting a construct. Visiting a literal answers the value that
the literal was evaluated to, and evaluating an expression answers a value that the
expression stands for; everything in between keeps what its caller needs. The induction is on
the constructs, along the recursion of the visits.
-/

namespace CommentDocs.Walk

open Binding Syntax
open ModuleDocs (Step)

variable {site : Site} {moduleId : Text} {program : List (Occurrence × Option Construct)}

/-- A contract for steps that are justified in a program. -/
abbrev Provides (site : Site) (moduleId : Text) (program : List (Occurrence × Option Construct))
    {α : Type} (P : List Step → Prop) (action : StateM Walk α) (Q : α → List Step → Prop) : Prop :=
  Contract site moduleId (Justified site moduleId program) P action Q

/-- A step that needs no justification and binds no name keeps what steps of its kind keep. -/
theorem provides_perform {step : Step} {F : List Step → Prop}
    (free : ∀ steps, Justified site moduleId program steps step)
    (stable : ∀ steps, F steps → F (steps ++ [step])) :
    Provides site moduleId program F (perform site step) fun _ => F :=
  .perform fun steps _ holds => ⟨free steps, stable steps holds⟩

theorem provides_create_literal (type : Text) (here : Occurrence) :
    Provides site moduleId program (fun _ => True) (create site type (some here))
      fun value steps => Created site moduleId steps (some here) value :=
  .create fun steps _ _ => ⟨trivial, steps, type, List.prefix_refl _, rfl⟩

theorem provides_create_other (type : Text) (expression : Option Construct) :
    Provides site moduleId program (fun _ => True) (create site type none)
      fun value steps => Created site moduleId steps none value ∧ Unpublished steps value ∧
        StandsFor site moduleId steps expression value := by
  refine .create fun steps lawful _ => ?_
  have created : Created site moduleId (steps ++ [.create type none]) none _ :=
    ⟨steps, type, List.prefix_refl _, rfl⟩
  have unpublished : Unpublished (steps ++ [.create type none]) _ :=
    (unpublished_nextId lawful).concat fun _ _ => Step.noConfusion
  have publishable : Publishable site moduleId (steps ++ [.create type none]) _ :=
    ⟨created.lt_nextId, (noParameter_nextId lawful).concat rfl⟩
  exact ⟨trivial, created, unpublished, .unpublished publishable unpublished⟩

/-- Only what may be published is published. -/
theorem provides_publish {P : List Step → Prop} (name : Text) (value : ValueId)
    (publishable : ∀ steps, Lawful (Justified site moduleId program) steps → P steps →
      Publishable site moduleId steps value) :
    Provides site moduleId program P (publish site name value) fun _ _ => True :=
  .publish fun steps lawful holds =>
    ⟨trivial, (publishable steps lawful holds).concat rfl, trivial⟩

theorem provides_nameFunction (frame : Option Frame) (isDeclaration : Bool) (here : Occurrence)
    (value : ValueId) (name : Option Text) :
    Provides site moduleId program (Created site moduleId · (some here) value)
      (nameFunction site frame isDeclaration value name)
      fun _ steps => Created site moduleId steps (some here) value := by
  have stable : ∀ earlier later : List Step, earlier <+: later →
      Created site moduleId earlier (some here) value →
        Created site moduleId later (some here) value :=
    fun _ _ grown created => created.mono grown
  cases name with
  | none => exact .pure fun _ created => created
  | some name =>
    simp only [nameFunction]
    split
    · have published : Provides site moduleId program (Created site moduleId · (some here) value)
          (publish site name value) fun _ _ => True :=
        provides_publish name value fun _ lawful created => created.publishable lawful
      exact (published.frame stable).consequence (fun _ created => ⟨created, created⟩)
        fun _ _ kept => kept.2
    · exact provides_perform (fun _ => trivial) fun _ => stable _ _ (List.prefix_append _ _)

/-- A parameter is new, so its comment documents no published value. -/
theorem provides_addParameters (frame : Frame) (parameters : List Parameter) :
    Provides site moduleId program (fun _ => True) (addParameters site frame parameters)
      fun _ _ => True := by
  induction parameters with
  | nil => exact .pure fun _ _ => trivial
  | cons parameter rest ih =>
    unfold addParameters
    refine (provides_create_other ModelType.any none).bind fun id => ?_
    refine Contract.bind (Q := fun _ steps => Unpublished steps id) (.perform ?_) fun _ => ?_
    · exact fun steps _ fresh =>
        ⟨⟨fresh.1, fresh.2.1⟩, fresh.2.1.concat fun _ _ => Step.noConfusion⟩
    · refine Contract.bind (Q := fun _ _ => True) (.perform ?_) fun _ => ih
      exact fun steps _ unpublished => ⟨.inr (.inr unpublished), trivial⟩

/-- Binding a member keeps what every expression stands for. -/
theorem provides_addMember (object : ValueId) (key : Option Text)
    (expression : Option Construct) (value : ValueId) :
    Provides site moduleId program (StandsFor site moduleId · expression value)
      (addMember site object key value)
      fun _ steps => StandsFor site moduleId steps expression value := by
  unfold addMember
  split
  · exact .pure fun _ stands => stands
  · exact .pure fun _ stands => stands
  · exact provides_perform (fun _ => trivial) fun _ stands => stands.concat rfl

theorem provides_assign (value : ValueId) (target : Target)
    (expression : Option Construct) :
    Provides site moduleId program (StandsFor site moduleId · expression value)
      (assign site value target) fun _ _ => True := by
  cases target with
  | other => exact .pure fun _ _ => trivial
  | «variable» name =>
    exact provides_publish name value fun _ lawful stands => stands.publishable lawful
  | member path =>
    simp only [assign]
    refine .current fun steps _ _ => ?_
    split
    · exact .pure fun _ _ => trivial
    · refine Contract.bind (Q := fun _ _ => True) ?_ fun _ => ?_
      · exact .perform fun _ _ _ => ⟨trivial, trivial⟩
      · exact .perform fun _ _ _ => ⟨trivial, trivial⟩

theorem provides_exportFrom (frame : Option Frame) (callee : Text)
    (arguments : List (Option ValueId)) :
    Provides site moduleId program (fun _ => True) (exportFrom site frame callee arguments)
      fun _ _ => True := by
  unfold exportFrom
  split
  · refine .current fun steps _ _ => ?_
    dsimp only
    split
    · exact .perform fun _ _ _ => ⟨trivial, trivial⟩
    · exact .pure fun _ _ => trivial
  · exact .pure fun _ _ => trivial

/-- A visit answers the value of a literal, if its construct is one. -/
def Answers (site : Site) (moduleId : Text) (construct : Construct) (answer : Option ValueId)
    (steps : List Step) : Prop :=
  ∀ value, answer = some value →
    ∃ here, construct.literal? = some here ∧ Created site moduleId steps (some here) value

theorem provides_valueOf (construct : Construct)
    {visited : StateM Walk (Option ValueId)}
    (h : Provides site moduleId program (fun _ => True) visited (Answers site moduleId construct)) :
    Provides site moduleId program (fun _ => True) (valueOf site construct visited)
      fun value steps => StandsFor site moduleId steps (some construct) value := by
  unfold valueOf
  refine .current fun steps _ _ => ?_
  split
  · rename_i id known
    refine .pure ?_
    rintro _ rfl
    cases construct with
    | identifier name parts => exact .name known
    | _ => cases known
  · refine Contract.bind (h.consequence (fun _ _ => trivial) fun _ _ answers => answers)
      fun answer => ?_
    split
    · rename_i id
      refine .pure fun later answers => ?_
      obtain ⟨here, spelled, created⟩ := answers id rfl
      exact .literal spelled created
    · exact (provides_create_other _ _).consequence (fun _ _ => trivial) fun _ _ fresh => fresh.2.2

/-- The comment of a literal documents the value of the literal. -/
theorem provides_document_literal (here : Occurrence) (value : ValueId) (frame : Option Frame) :
    Provides site moduleId program (Created site moduleId · (some here) value)
      (perform site (.document here value frame))
      fun _ steps => Created site moduleId steps (some here) value :=
  .perform fun _ _ created => ⟨.inl created, created.mono (List.prefix_append _ _)⟩

/-- The comment of a return statement or a member documents what its expression stands for. -/
theorem provides_document_expression {here : Occurrence} {expression : Option Construct}
    (inside : (here, expression) ∈ program) (value : ValueId) (frame : Option Frame) :
    Provides site moduleId program (StandsFor site moduleId · expression value)
      (perform site (.document here value frame)) fun _ _ => True :=
  .perform fun _ _ stands => ⟨.inr (.inl ⟨expression, inside, stands⟩), trivial⟩

mutual

theorem provides_visit (frame : Option Frame) (owner : Option ValueId)
    (construct : Construct) (inside : construct.expressions ⊆ program) :
    Provides site moduleId program (fun _ => True) (visit site frame owner construct)
      (Answers site moduleId construct) := by
  -- a part of the visit that needs nothing keeps the value of the literal around it
  have around {α : Type} {here : Occurrence} {value : ValueId} {action : StateM Walk α}
      (h : Provides site moduleId program (fun _ => True) action fun _ _ => True) :
      Provides site moduleId program (Created site moduleId · (some here) value) action
        fun _ steps => Created site moduleId steps (some here) value :=
    (h.frame fun _ _ grown created => Created.mono grown created).consequence
      (fun _ created => ⟨trivial, created⟩) fun _ _ kept => kept.2
  have nothing {P : List Step → Prop} : Provides site moduleId program P
      (pure none : StateM Walk _) (Answers site moduleId construct) :=
    .pure fun _ _ _ answered => nomatch answered
  cases construct with
  | function here isDeclaration name parameters body =>
    simp only [visit]
    refine (provides_create_literal _ here).bind fun id => ?_
    refine (provides_nameFunction frame isDeclaration here id name).bind fun _ => ?_
    refine (around (provides_addParameters ⟨here, id⟩ parameters)).bind fun _ => ?_
    refine (around (provides_visitBody ⟨here, id⟩ body inside)).bind fun _ => ?_
    refine (provides_document_literal here id frame).bind fun _ => .pure ?_
    rintro steps created _ ⟨rfl⟩
    exact ⟨here, rfl, created⟩
  | object here members =>
    simp only [visit]
    refine (provides_create_literal _ here).bind fun id => ?_
    refine (around (provides_visitMembers ⟨here, id⟩ members inside)).bind fun _ => ?_
    refine (provides_document_literal here id frame).bind fun _ => .pure ?_
    rintro steps created _ ⟨rfl⟩
    exact ⟨here, rfl, created⟩
  | returning here argument =>
    simp only [visit]
    obtain ⟨own, others⟩ := List.cons_subset.mp inside
    refine (provides_visitValue frame owner argument others).bind fun id => ?_
    have documented : Provides site moduleId program (StandsFor site moduleId · argument id)
        (do perform site (.document here id frame); pure none) (Answers site moduleId _) :=
      (provides_document_expression own id frame).bind fun _ => nothing
    cases owner with
    | none => exact documented
    | some function =>
      refine Contract.bind ?_ fun _ => documented
      exact provides_perform (fun _ => trivial) fun _ stands => stands.concat rfl
  | declarator name value =>
    simp only [visit]
    refine (provides_visitValue frame owner value inside).bind fun id => ?_
    cases name with
    | none => exact nothing
    | some name =>
      dsimp only
      split
      · refine Contract.bind (provides_publish name id ?_) fun _ => nothing
        exact fun _ lawful stands => stands.publishable lawful
      · exact nothing
  | assignment target value =>
    simp only [visit]
    refine (provides_visitValue frame owner value inside).bind fun id => ?_
    split
    · exact (provides_assign id target value).bind fun _ => nothing
    · exact nothing
  | call callee inner arguments =>
    simp only [visit]
    obtain ⟨before, after⟩ := List.append_subset.mp inside
    refine (provides_visitArguments frame owner arguments before).bind fun values => ?_
    refine (provides_visitOptional frame owner inner after).bind fun _ => ?_
    exact (provides_exportFrom frame callee values).bind fun _ => nothing
  | identifier name parts =>
    simp only [visit]
    exact (provides_visitAll frame owner parts inside).bind fun _ => nothing
  | other type parts =>
    simp only [visit]
    exact (provides_visitAll frame owner parts inside).bind fun _ => nothing

theorem provides_visitAll (frame : Option Frame)
    (owner : Option ValueId) (constructs : List Construct)
    (inside : expressionsOfList constructs ⊆ program) :
    Provides site moduleId program (fun _ => True) (visitAll site frame owner constructs)
      fun _ _ => True := by
  cases constructs with
  | nil =>
    simp only [visitAll]
    exact .pure fun _ _ => trivial
  | cons construct rest =>
    simp only [visitAll]
    obtain ⟨first, others⟩ := List.append_subset.mp inside
    refine (provides_visit frame owner construct first).bind fun _ => ?_
    exact (provides_visitAll frame owner rest others).consequence (fun _ _ => trivial)
      fun _ _ done => done

theorem provides_visitArguments (frame : Option Frame)
    (owner : Option ValueId) (constructs : List Construct)
    (inside : expressionsOfList constructs ⊆ program) :
    Provides site moduleId program (fun _ => True) (visitArguments site frame owner constructs)
      fun _ _ => True := by
  cases constructs with
  | nil =>
    simp only [visitArguments]
    exact .pure fun _ _ => trivial
  | cons construct rest =>
    simp only [visitArguments]
    obtain ⟨first, others⟩ := List.append_subset.mp inside
    refine (provides_visit frame owner construct first).bind fun _ => ?_
    refine Contract.bind (Q := fun _ _ => True) ?_ fun _ => .pure fun _ _ => trivial
    exact (provides_visitArguments frame owner rest others).consequence (fun _ _ => trivial)
      fun _ _ done => done

theorem provides_visitOptional (frame : Option Frame)
    (owner : Option ValueId) (construct : Option Construct)
    (inside : expressionsOfOption construct ⊆ program) :
    Provides site moduleId program (fun _ => True) (visitOptional site frame owner construct)
      fun _ _ => True := by
  cases construct with
  | none =>
    simp only [visitOptional]
    exact .pure fun _ _ => trivial
  | some construct =>
    simp only [visitOptional]
    exact (provides_visit frame owner construct inside).bind fun _ => .pure fun _ _ => trivial

theorem provides_visitValue (frame : Option Frame)
    (owner : Option ValueId) (expression : Option Construct)
    (inside : expressionsOfOption expression ⊆ program) :
    Provides site moduleId program (fun _ => True) (visitValue site frame owner expression)
      fun value steps => StandsFor site moduleId steps expression value := by
  cases expression with
  | none =>
    simp only [visitValue]
    exact (provides_create_other _ none).mono_post fun _ _ fresh => fresh.2.2
  | some construct =>
    simp only [visitValue]
    exact provides_valueOf construct (provides_visit frame owner construct inside)

theorem provides_visitBody (frame : Frame) (body : Body)
    (inside : body.expressions ⊆ program) :
    Provides site moduleId program (fun _ => True) (visitBody site frame body)
      fun _ _ => True := by
  cases body with
  | missing =>
    simp only [visitBody]
    exact .pure fun _ _ => trivial
  | block statements =>
    simp only [visitBody]
    exact provides_visitAll (some frame) (some frame.value) statements inside
  | expression construct =>
    simp only [visitBody]
    have visited := provides_visit (some frame) (some frame.value) construct inside
    exact (provides_valueOf construct visited).bind fun id =>
      .perform fun _ _ _ => ⟨trivial, trivial⟩

theorem provides_visitMembers (frame : Frame) (members : List Member)
    (inside : expressionsOfMembers members ⊆ program) :
    Provides site moduleId program (fun _ => True) (visitMembers site frame members)
      fun _ _ => True := by
  cases members with
  | nil =>
    simp only [visitMembers]
    exact .pure fun _ _ => trivial
  | cons member rest =>
    simp only [visitMembers]
    obtain ⟨first, others⟩ := List.append_subset.mp inside
    exact (provides_visitMember frame member first).bind fun _ =>
      provides_visitMembers frame rest others

theorem provides_visitMember (frame : Frame) (member : Member)
    (inside : member.expressions ⊆ program) :
    Provides site moduleId program (fun _ => True) (visitMember site frame member)
      fun _ _ => True := by
  cases member with
  | pair here value =>
    simp only [visitMember]
    obtain ⟨own, others⟩ := List.cons_subset.mp inside
    refine (provides_visitValue (some frame) none value others).bind fun id => ?_
    refine (provides_addMember frame.value here.node.keyName value id).bind fun _ => ?_
    exact provides_document_expression own id (some frame)
  | method here function =>
    simp only [visitMember]
    obtain ⟨own, others⟩ := List.cons_subset.mp inside
    refine (provides_visit (some frame) none function others).bind fun answer => ?_
    cases answer with
    | none => exact .pure fun _ _ => trivial
    | some id =>
      have stands : ∀ steps, Answers site moduleId function (some id) steps →
          StandsFor site moduleId steps (some function) id := by
        intro steps answers
        obtain ⟨there, spelled, created⟩ := answers id rfl
        exact .literal spelled created
      refine Contract.bind ((provides_addMember frame.value here.node.keyName
        (some function) id).consequence stands fun _ _ kept => kept) fun _ => ?_
      exact provides_document_expression own id (some frame)
  | shorthand name =>
    simp only [visitMember]
    refine .current fun steps _ _ => ?_
    have bound (id : ValueId) : Provides site moduleId program (fun _ => True)
        (perform site (.setProperty frame.value name id)) fun _ _ => True :=
      .perform fun _ _ _ => ⟨trivial, trivial⟩
    split
    · exact Contract.bind (Q := fun _ _ => True) (.pure fun _ _ => trivial) bound
    · refine Contract.bind (Q := fun _ _ => True) ?_ bound
      exact (provides_create_other _ none).consequence (fun _ _ => trivial) fun _ _ _ => trivial
  | other construct =>
    simp only [visitMember]
    exact (provides_visit (some frame) none construct inside).bind fun _ =>
      .pure fun _ _ => trivial

end

end CommentDocs.Walk
