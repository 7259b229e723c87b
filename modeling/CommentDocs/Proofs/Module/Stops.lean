import CommentDocs.Proofs.Module.Touring

/-!
# What a visit does at one node

Contracts for the small parts of a visit: naming, binding, exporting, the comment of a node and
the parameters of a function. A visit is told in which frame it takes place; the frame is the
innermost literal around the node, and a return statement has an owner if that literal is a
function.
-/

namespace CommentDocs

open Binding Syntax

namespace Walk

open ModuleDocs (Step)

variable {site : Site} {moduleId source : Text} {root : Tree} {base : List Step} {place : Place}
variable {branches : Nat → Prop} {frame : Option Frame}

/-- A function declaration publishes its name. -/
theorem tours_nameFunction {node : Tree} (found : root.nodeAt? place = some node)
    (form : Form.ofType node.type = .function) (frame : Option Frame) (value : ValueId) :
    Tours site moduleId source root base place 1 1 nowhere
      (nameFunction site frame (declarationTypes.contains node.type) value
        (node.fieldText? source "name".toList)) fun _ _ => True := by
  cases named : node.fieldText? source "name".toList with
  | none => exact .pure fun _ _ => trivial
  | some name =>
    simp only [nameFunction]
    split
    · rename_i declared
      refine .publish found ?_
      rw [Bool.and_eq_true] at declared
      rw [Tree.Binds, form]
      exact ⟨declared.1, named⟩
    · exact .perform_free (.name value name) 1 rfl (fun _ => trivial) rfl

/-- A declarator publishes the name that it binds. -/
theorem tours_declare {node : Tree} (found : root.nodeAt? place = some node)
    (form : Form.ofType node.type = .declarator) (frame : Option Frame) (value : ValueId) :
    Tours site moduleId source root base place 1 1 nowhere
      (do
        match node.boundName? source with
        | some name => if isOpen frame then publish site name value
        | none => pure ()
        return (none : Option ValueId))
      fun answer _ => answer = none := by
  cases named : node.boundName? source with
  | none => exact .pure fun _ _ => rfl
  | some name =>
    dsimp only
    split
    · refine (Tours.publish found ?_).answer fun _ _ _ => rfl
      rw [Tree.Binds, form]
      exact named
    · exact .pure fun _ _ => rfl

theorem tours_addMember (object : ValueId) (key : Option Text) (value : ValueId) :
    Tours site moduleId source root base place 4 4 nowhere (addMember site object key value)
      fun _ _ => True := by
  unfold addMember
  split
  · exact .pure fun _ _ => trivial
  · exact .pure fun _ _ => trivial
  · exact .perform_free (.setProperty object _ value) 4 rfl (fun _ => trivial) rfl

theorem tours_assign {node : Tree} (found : root.nodeAt? place = some node)
    (form : Form.ofType node.type = .assignment) (value : ValueId) :
    Tours site moduleId source root base place 1 4 nowhere (assign site value (node.target source))
      fun _ _ => True := by
  cases bound : node.target source with
  | other => exact .pure fun _ _ => trivial
  | «variable» name =>
    refine (Tours.publish found ?_).weaken (Nat.le_refl _) (by decide) fun _ none => none
    rw [Tree.Binds, form]
    exact bound
  | member path =>
    simp only [assign]
    refine .current fun entry _ => ?_
    split
    · exact .pure trivial
    · rename_i target _
      have named (name : Text) : Tours site moduleId source root entry place 1 1 nowhere
          (perform site (.name value name)) fun _ _ => True :=
        .perform_free (.name value name) 1 rfl (fun _ => trivial) rfl
      have bound (name : Text) (steps : List Step) :
          Tours site moduleId source root steps place 4 4 nowhere
            (perform site (.setProperty target name value)) fun _ _ => True :=
        .perform_free (.setProperty target name value) 4 rfl (fun _ => trivial) rfl
      exact (named _).close 4 4 (fun _ middle _ _ => bound _ middle)
        ⟨by decide, by decide, by decide⟩ entry (List.prefix_refl _)

theorem tours_exportFrom (frame : Option Frame) (callee : Text)
    (arguments : List (Option ValueId)) :
    Tours site moduleId source root base place 1 1 nowhere (exportFrom site frame callee arguments)
      fun _ _ => True := by
  unfold exportFrom
  split
  · refine .current fun entry _ => ?_
    dsimp only
    split
    · exact Tours.perform_free (.setExports _) 1 rfl (fun _ => trivial) rfl entry
        (List.prefix_refl _)
    · exact .pure trivial
  · exact .pure fun _ _ => trivial

/-- The function that a return statement returns from. -/
def ownerOf (frame : Option Frame) : Option ValueId :=
  frame.bind fun frame => if frame.here.node.kind = .function then some frame.value else none

/-- A node is visited in a frame: the innermost literal around it, with its value. -/
structure Setting (site : Site) (moduleId : Text) (root : Tree) (base : List Step) (place : Place)
    (frame : Option Frame) : Prop where
  around : root.enclosing? place = frame.map (·.here.place)
  held : ∀ around ∈ frame, Created site moduleId base (some around.here) around.value

theorem Setting.mono {later : List Step} {frame : Option Frame}
    (setting : Setting site moduleId root base place frame) (grown : base <+: later) :
    Setting site moduleId root later place frame where
  around := setting.around
  held around inside := (setting.held around inside).mono grown

theorem stage_document (here : Occurrence) (value : ValueId) (frame : Option Frame) :
    3 ≤ (Step.document here value frame).stage ∧ (Step.document here value frame).stage ≤ 5 := by
  simp only [Step.stage]
  split <;> decide

theorem stage_document_of_property {here : Occurrence} (property : here.node.kind = .property)
    (value : ValueId) (frame : Option Frame) : (Step.document here value frame).stage = 5 :=
  if_pos property

theorem stage_document_of_ne {here : Occurrence} (other : here.node.kind ≠ .property)
    (value : ValueId) (frame : Option Frame) : (Step.document here value frame).stage = 3 :=
  if_neg other

/-- A return statement that is visited inside a function gives the function its value. -/
theorem returnsIn_document (root : Tree) (here : Occurrence) (value : ValueId)
    (frame : Option Frame) :
    returnsIn root [.document here value frame] =
      if here.node.kind = .returning ∧ (root.formAt? here.place).isSome then
        (ownerOf frame).toList.map fun function => (here, function, value)
      else [] := by
  cases frame with
  | none => simp [returnsIn, ownerOf]
  | some frame =>
    by_cases function : frame.here.node.kind = .function <;>
      by_cases visited : here.node.kind = .returning ∧ (root.formAt? here.place).isSome <;>
        simp [returnsIn, ownerOf, function, visited]

theorem placed_document {here : Occurrence} (shown : root.Shows source here) (value : ValueId)
    (setting : Setting site moduleId root base here.place frame) {steps : List Step}
    (grown : base <+: steps) :
    Placed site moduleId source root steps ⟨here.place, .document here value frame⟩ :=
  ⟨rfl, shown, setting.around, (setting.mono grown).held⟩

/-- The comment of a node that gives no value to a function. -/
theorem tours_document {here : Occurrence} (shown : root.Shows source here) (value : ValueId)
    (setting : Setting site moduleId root base here.place frame)
    (silent : here.node.kind ≠ .returning ∨ root.formAt? here.place = none ∨ ownerOf frame = none) :
    Tours site moduleId source root base here.place (Step.document here value frame).stage
      (Step.document here value frame).stage nowhere (perform site (.document here value frame))
      fun _ _ => True := by
  refine .perform (fun entry started =>
    ⟨placed_document shown value setting (started.trans (List.prefix_append _ _)), trivial⟩) ?_
  rw [returnsIn_document]
  rcases silent with kind | list | alone
  · simp [returnsBy, kind]
  · simp [returnsBy, list]
  · simp [returnsBy, alone]

theorem ownerOf_eq_some {function : ValueId} (owner : ownerOf frame = some function) :
    ∃ around, frame = some around ∧ around.here.node.kind = .function ∧
      around.value = function := by
  obtain ⟨around, rfl, own⟩ := Option.bind_eq_some_iff.mp owner
  obtain ⟨kind, same⟩ := Option.ite_none_right_eq_some.mp own
  exact ⟨around, rfl, kind, Option.some.inj same⟩

/-- The end of a visit of a return statement: its owner, if any, returns the value, and its
comment documents it. -/
theorem tours_return {here : Occurrence} (shown : root.Shows source here)
    (returning : here.node.kind = .returning) (visited : (root.formAt? here.place).isSome)
    (value : ValueId) (setting : Setting site moduleId root base here.place frame) :
    Tours site moduleId source root base here.place 1 3 branches
      (do
        match ownerOf frame with
        | some function => perform site (.appendReturn function value (some here))
        | none => pure ()
        perform site (.document here value frame)
        return (none : Option ValueId))
      fun answer _ => answer = none := by
  have stage : (Step.document here value frame).stage = 3 :=
    stage_document_of_ne (by rw [returning]; decide) value frame
  cases owner : ownerOf frame with
  | none =>
    have document := tours_document shown value setting (.inr (.inr owner))
    rw [stage] at document
    refine (document.answer fun _ _ _ => rfl).weaken (by decide) (Nat.le_refl _) ?_
    exact fun _ none => none.elim
  | some function =>
    obtain ⟨around, rfl, kind, rfl⟩ := ownerOf_eq_some owner
    intro entry started
    refine Contract.bind (Q := fun _ steps =>
      steps = entry ++ [.appendReturn around.value value (some here)]) (.perform ?_) fun _ =>
        Contract.bind (Q := fun _ steps => steps = entry ++
          [.appendReturn around.value value (some here)] ++ [.document here value (some around)])
          (.perform ?_) fun _ => .pure ?_
    · rintro _ - rfl
      exact ⟨trivial, rfl⟩
    · rintro _ - rfl
      exact ⟨trivial, rfl⟩
    rintro _ rfl
    -- only both steps together are a tour: the first one returns what the second one documents
    let appended : Step := .appendReturn around.value value (some here)
    let documented : Step := .document here value (some around)
    have grown : base <+: entry ++ [appended] ++ [documented] :=
      started.trans ((List.prefix_append _ _).trans (List.prefix_append _ _))
    have returned : Placed site moduleId source root _ ⟨here.place, appended⟩ :=
      ⟨rfl, around.here, kind, setting.around, (setting.mono grown).held around rfl⟩
    refine ⟨⟨[⟨here.place, appended⟩, ⟨here.place, documented⟩], List.append_assoc .., ?_⟩, rfl⟩
    refine ⟨List.forall_mem_cons.mpr ⟨.inl ?_, List.forall_mem_singleton.mpr (.inl ?_)⟩,
      List.forall_mem_cons.mpr ⟨returned, List.forall_mem_singleton.mpr
        (placed_document shown value setting grown)⟩, ?_, ?_⟩
    · exact ⟨rfl, Nat.le_refl 1, (by decide : 1 ≤ 3)⟩
    · exact ⟨rfl, stage.symm ▸ (by decide : 1 ≤ 3), Nat.le_of_eq stage⟩
    · refine List.pairwise_pair.mpr ⟨fun parts => .inl ?_, fun _ => .inl ?_, fun _ _ => rfl⟩
      · exact apart_of_suffix (.inl (List.suffix_refl _)) parts
      · exact stage.symm ▸ (by decide : 1 < 3)
    · have given := returnsIn_document root here value (some around)
      rw [if_pos ⟨returning, visited⟩, owner] at given
      exact given.symm

def addParameter (site : Site) (frame : Frame) (parameter : Parameter) : StateM Walk Unit := do
  let id ← create site ModelType.any none
  perform site (.addParameter frame.value parameter.name id)
  perform site (.document parameter.occurrence id (some frame))

theorem addParameters_cons (frame : Frame) (parameter : Parameter) (rest : List Parameter) :
    addParameters site frame (parameter :: rest) =
      (do addParameter site frame parameter; addParameters site frame rest) := rfl

theorem addParameters_singleton (frame : Frame) (parameter : Parameter) :
    addParameters site frame [parameter] = addParameter site frame parameter := by
  rw [addParameters_cons]
  exact bind_pure_unit

theorem tours_addParameter {node : Located} (there : node.At root) {frame : Frame}
    (setting : Setting site moduleId root base node.place (some frame))
    (silent : node.tree.type = identifierType ∨ root.formAt? node.place = none) :
    Tours site moduleId source root base node.place 1 5 nowhere
      (addParameter site frame (node.parameter source)) fun _ _ => True := by
  have shown : root.Shows source (node.occurrence source) := ⟨node.tree, there, .inl rfl⟩
  have kind : (node.occurrence source).node.kind ≠ .returning ∨
      root.formAt? (node.occurrence source).place = none := by
    refine silent.imp_left fun identifier => ?_
    simp only [Located.occurrence, Tree.toNode, identifier]
    decide
  have documented (id : ValueId) {later : List Step} (grown : base <+: later) :
      Tours site moduleId source root later node.place 3 5 nowhere
        (perform site (.document (node.occurrence source) id (some frame))) fun _ _ => True := by
    have timed := stage_document (node.occurrence source) id (some frame)
    exact (tours_document shown id (setting.mono grown) (kind.imp_right .inl)).weaken timed.1
      timed.2 fun _ none => none
  have added (id : ValueId) {later : List Step} (grown : base <+: later) :
      Tours site moduleId source root later node.place 1 5 nowhere
        (do
          perform site (.addParameter frame.value (node.tree.text source) id)
          perform site (.document (node.occurrence source) id (some frame))) fun _ _ => True :=
    (Tours.perform_free (.addParameter frame.value _ id) 1 rfl (fun _ => trivial) rfl).close 3 5
      (fun _ _ further _ => documented id (grown.trans further)) ⟨by decide, by decide, by decide⟩
  exact (Tours.create ModelType.any).close 1 5 (fun id _ grown _ => added id grown)
    ⟨by decide, by decide, by decide⟩

theorem tours_addParameters {frame : Frame} {nodes : List Located}
    (inRow : Located.InRow place nodes) (plain : (root.formAt? place).bind Form.lastField? = none)
    (each : ∀ node ∈ nodes, node.At root ∧ Setting site moduleId root base node.place (some frame) ∧
      (node.tree.type = identifierType ∨ root.formAt? node.place = none)) :
    Tours site moduleId source root base place 1 1 (through place nodes)
      (addParameters site frame (nodes.map (Located.parameter source))) fun _ _ => True := by
  induction nodes generalizing base with
  | nil => exact .pure fun _ _ => trivial
  | cons node rest ih =>
    obtain ⟨there, setting, silent⟩ := each node List.mem_cons_self
    rw [List.map_cons, addParameters_cons]
    refine .cons inRow plain (tours_addParameter there setting silent) fun _ later grown _ => ?_
    refine ih inRow.tail fun other mem => ?_
    obtain ⟨there, setting, silent⟩ := each other (List.mem_cons_of_mem _ mem)
    exact ⟨there, setting.mono grown, silent⟩

section

variable {located child : Located}

/-- A child is in the frame of its parent, unless the parent is a literal. -/
theorem Setting.of_mem_children {frame : Option Frame}
    (setting : Setting site moduleId root base located.place frame)
    (mem : child ∈ located.children) (plain : root.isLiteral located.place = false) :
    Setting site moduleId root base child.place frame where
  around := by rw [Located.enclosing?_of_mem_children mem, plain, ← setting.around]; rfl
  held := setting.held

/-- A child of a literal is in the frame of the literal. -/
theorem Setting.of_literal {frame : Frame} (mem : child ∈ located.children)
    (literal : root.isLiteral located.place = true) (own : frame.here.place = located.place)
    (held : Created site moduleId base (some frame.here) frame.value) :
    Setting site moduleId root base child.place (some frame) where
  around := by rw [Located.enclosing?_of_mem_children mem, literal, Option.map_some, own]; rfl
  held around inside := by
    cases inside
    exact held

/-- The parameters of a function are documented in the frame of the function. -/
theorem tours_parameters (here : located.Visitable root)
    (form : Form.ofType located.tree.type = .function) (frame : Frame)
    (own : frame.here.place = located.place)
    (held : Created site moduleId base (some frame.here) frame.value) :
    Tours site moduleId source root base located.place 1 1
      (fun index => Form.function.isListField (root.fieldAt? (index :: located.place)) = true)
      (addParameters site frame (located.parameters source)) fun _ _ => True := by
  have function : root.formAt? located.place = some .function := by rw [here.form, form]
  have literal : root.isLiteral located.place = true := by simp [Tree.isLiteral, function]
  -- a child in one of the two fields is a list in the frame of the function
  have list {child : Located} (mem : child ∈ located.children)
      (field : Form.function.isListField child.tree.field = true) :
      Setting site moduleId root base child.place (some frame) ∧ child.At root ∧
        root.formAt? child.place = none ∧ ∃ index, child.place = index :: located.place ∧
          Form.function.isListField (root.fieldAt? (index :: located.place)) = true := by
    obtain ⟨index, placed, filled⟩ := here.there.exists_branch mem
    exact ⟨.of_literal mem literal own held, here.there.of_mem_children mem,
      here.there.formAt?_of_list mem (by rw [function]; exact field), index, placed,
      filled ▸ field⟩
  unfold Located.parameters Located.parameterNodes
  split
  · rename_i single found
    obtain ⟨mem, field⟩ := Located.mem_children_of_child? found
    obtain ⟨setting, there, hidden, index, placed, inside⟩ := list mem (by rw [field]; decide)
    rw [List.map_singleton, addParameters_singleton]
    exact (tours_addParameter there setting (.inr hidden)).below inside
      (placed ▸ List.suffix_refl single.place)
  · split
    · rename_i params found
      obtain ⟨mem, field⟩ := Located.mem_children_of_child? found
      obtain ⟨setting, there, hidden, index, placed, inside⟩ := list mem (by rw [field]; decide)
      refine (tours_addParameters ((Located.inRow_parts params).filterMap fun _ _ =>
        Located.suffix_of_bound?) (by rw [hidden]; rfl) ?_).below inside
          (placed ▸ List.suffix_refl params.place)
      intro node binder
      obtain ⟨param, part, bound⟩ := List.mem_filterMap.mp binder
      have inside := Located.mem_children_of_mem_parts part
      have around := setting.of_mem_children inside (by simp [Tree.isLiteral, hidden])
      obtain ⟨identifier, same | ⟨below, pattern⟩⟩ := Located.bound?_eq_some bound
      · exact same ▸ ⟨there.of_mem_children inside, around, .inl (same ▸ identifier)⟩
      · have visitable := there.visitable_of_mem_children inside (by rw [hidden]; rfl)
        refine ⟨visitable.there.of_mem_children below, around.of_mem_children below ?_,
          .inl identifier⟩
        simp [Tree.isLiteral, visitable.form, pattern]
    · exact .pure fun _ _ => trivial

end

end Walk

end CommentDocs
