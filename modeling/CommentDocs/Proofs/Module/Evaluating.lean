import CommentDocs.Proofs.Module.Evaluation

/-!
# Every visit uses evaluated values

One contract for each way of visiting a node, by induction on the size of the node. A visit of a
literal answers its value right after it was documented, and a visit of any other node answers
nothing. So what an expression has come to is known at the moment at which its visit ends, and that
is when the value is used.
-/

namespace CommentDocs

open Binding Syntax

namespace Syntax

variable {root : Tree} {source : Text} {located child : Located}

/-- The children of a node that is no literal are declared where it is. -/
theorem Tree.OpenAt.of_mem_children (mem : child ∈ located.children)
    (plain : root.isLiteral located.place = false) (opened : root.OpenAt located.place) :
    root.OpenAt child.place := by
  intro outer enclosing
  rw [Located.enclosing?_of_mem_children mem, plain] at enclosing
  exact opened outer enclosing

/-- Functions in a function publish their names. -/
theorem Tree.OpenAt.of_function (mem : child ∈ located.children)
    (function : root.formAt? located.place = some .function) : root.OpenAt child.place := by
  intro outer enclosing
  rw [Located.enclosing?_of_mem_children mem, if_pos (by simp [Tree.isLiteral, function])]
    at enclosing
  cases enclosing
  exact function

/-- The members of an object literal are those at its place. -/
theorem Located.At.membersAt (here : located.At root) :
    root.membersAt source located.place = located.parts.map (Located.member source) := by
  rw [Tree.membersAt, here]
  rfl

/-- The construct of an object literal, with its members by its place. -/
theorem Located.At.construct_object (here : located.At root)
    (form : Form.ofType located.tree.type = .object) :
    located.construct source = .object (located.occurrence source)
      (root.membersAt source (located.occurrence source).place) := by
  rw [Located.construct_eq, form, Located.occurrence, here.membersAt]

/-- The construct of a method is a literal. -/
theorem Located.literal?_construct_of_method (method : located.tree.type = methodType) :
    (located.construct source).literal? = some (located.occurrence source) := by
  have form : Form.ofType located.tree.type = .function := by
    rw [method]
    decide
  rw [Located.construct_eq, form]
  rfl

end Syntax

namespace Walk

open ModuleDocs (Step)

variable {site : Site} {moduleId source : Text} {root : Tree} {frame : Option Frame}
variable {owner : Option ValueId} {nodes : List Located}

/-- A visit of a node accounts for its values, in every frame that the node may have. -/
def VisitAccounts (site : Site) (moduleId source : Text) (root : Tree) (located : Located) : Prop :=
  ∀ frame owner, (isOpen frame → root.OpenAt located.place) →
    Accounts site moduleId source root (fun _ => True)
      (visit site frame owner (located.construct source))
      (AnswersEvaluated site moduleId frame (located.construct source))

theorem accounts_visitAll (each : ∀ node ∈ nodes, VisitAccounts site moduleId source root node ∧
    (isOpen frame → root.OpenAt node.place)) :
    Accounts site moduleId source root (fun _ => True)
      (visitAll site frame owner (nodes.map (Located.construct source))) fun _ _ => True := by
  induction nodes with
  | nil =>
    rw [List.map_nil, visitAll]
    exact Maintains.pure fun _ _ => trivial
  | cons node rest ih =>
    obtain ⟨visited, opened⟩ := each node List.mem_cons_self
    rw [List.map_cons, visitAll]
    refine (visited frame owner opened).bind fun _ => ?_
    exact (ih fun other mem => each other (List.mem_cons_of_mem _ mem)).anywhere

theorem accounts_visitArguments
    (each : ∀ node ∈ nodes, VisitAccounts site moduleId source root node ∧
      (isOpen frame → root.OpenAt node.place)) :
    Accounts site moduleId source root (fun _ => True)
      (visitArguments site frame owner (nodes.map (Located.construct source))) fun _ _ => True := by
  induction nodes with
  | nil =>
    rw [List.map_nil, visitArguments]
    exact Maintains.pure fun _ _ => trivial
  | cons node rest ih =>
    obtain ⟨visited, opened⟩ := each node List.mem_cons_self
    rw [List.map_cons, visitArguments]
    refine (visited frame owner opened).bind fun _ => ?_
    refine Maintains.bind (Q := fun _ _ => True) ?_ fun _ => Maintains.pure fun _ _ => trivial
    exact (ih fun other mem => each other (List.mem_cons_of_mem _ mem)).anywhere

theorem accounts_visitOptional {child : Option Located}
    (each : ∀ node ∈ child, VisitAccounts site moduleId source root node ∧
      (isOpen frame → root.OpenAt node.place)) :
    Accounts site moduleId source root (fun _ => True)
      (visitOptional site frame owner (child.map (Located.construct source))) fun _ _ => True := by
  cases child with
  | none =>
    rw [Option.map_none, visitOptional]
    exact Maintains.pure fun _ _ => trivial
  | some node =>
    obtain ⟨visited, opened⟩ := each node rfl
    rw [Option.map_some, visitOptional]
    exact (visited frame owner opened).bind fun _ => Maintains.pure fun _ _ => trivial

/-- The value that a construct is evaluated to. Meanwhile names may have been published. -/
theorem accounts_valueOf {construct : Construct} {visited : StateM Walk (Option ValueId)}
    (visits : Accounts site moduleId source root (fun _ => True) visited
      (AnswersEvaluated site moduleId frame construct)) :
    Accounts site moduleId source root (fun _ => True) (valueOf site construct visited)
      fun value steps => Evaluated site moduleId steps frame (some construct) value := by
  unfold valueOf
  refine Maintains.current fun entry _ => ?_
  split
  · rename_i value known
    refine Maintains.pure ?_
    rintro _ rfl
    unfold known? at known
    split at known
    · exact .name known
    · cases known
  · rename_i unknown
    have grown : Accounts site moduleId source root (· = entry) visited fun answer steps =>
        AnswersEvaluated site moduleId frame construct answer steps ∧ entry <+: steps := by
      refine (visits.keep fun _ _ more start => start.trans more).consequence ?_
        fun _ _ done => done
      rintro _ rfl
      exact List.prefix_refl _
    refine Maintains.bind grown fun answer => ?_
    cases answer with
    | some value => exact Maintains.pure fun _ done => done.1
    | none =>
      refine accounts_create fun steps start => .new rfl rfl ?_ fun name parts named => ?_
      · rintro _ ⟨rfl⟩
        exact start.1
      · cases named
        exact ⟨entry, start.2, unknown⟩

theorem accounts_visitValue {child : Option Located}
    (each : ∀ node ∈ child, VisitAccounts site moduleId source root node ∧
      (isOpen frame → root.OpenAt node.place)) :
    Accounts site moduleId source root (fun _ => True)
      (visitValue site frame owner (child.map (Located.construct source)))
      fun value steps =>
        Evaluated site moduleId steps frame (child.map (Located.construct source)) value := by
  cases child with
  | none =>
    rw [Option.map_none, visitValue]
    refine accounts_create fun steps _ => .new rfl rfl ?_ ?_
    · rintro _ ⟨⟩
    · rintro _ _ ⟨⟩
  | some node =>
    obtain ⟨visited, opened⟩ := each node rfl
    rw [Option.map_some, visitValue]
    exact accounts_valueOf (visited frame owner opened)

/-- The value of an expression, ready to be used. -/
theorem accounts_expression {child : Option Located}
    (each : ∀ node ∈ child, VisitAccounts site moduleId source root node ∧
      (isOpen frame → root.OpenAt node.place)) :
    Accounts site moduleId source root (fun _ => True)
      (visitValue site frame owner (child.map (Located.construct source)))
      fun value steps => Traced site moduleId steps (child.map (Located.construct source)) value :=
  (accounts_visitValue each).consequence (fun _ start => start) fun _ _ evaluated =>
    .of_evaluated evaluated

variable {located : Located}

/-- The visits of all nodes below a node account for their values. -/
def AccountsBelow (site : Site) (moduleId source : Text) (root : Tree) (located : Located) : Prop :=
  ∀ node : Located, sizeOf node.tree < sizeOf located.tree → node.Visitable root →
    VisitAccounts site moduleId source root node

theorem AccountsBelow.of_mem_children {child : Located}
    (deep : AccountsBelow site moduleId source root located) (mem : child ∈ located.children) :
    AccountsBelow site moduleId source root child :=
  fun node small there =>
    deep node (Nat.lt_trans small (Located.sizeOf_lt_of_mem_children mem)) there

/-- The children of a node that is neither a literal nor has lists are visited in its frame. -/
theorem AccountsBelow.child (deep : AccountsBelow site moduleId source root located)
    (here : located.Visitable root) (plain : (Form.ofType located.tree.type).isPlain)
    (opened : isOpen frame → root.OpenAt located.place) {child : Located}
    (mem : child ∈ located.children) :
    VisitAccounts site moduleId source root child ∧ (isOpen frame → root.OpenAt child.place) := by
  have unlisted : (root.formAt? located.place).any (·.isListField child.tree.field) = false := by
    rw [here.form]
    exact Form.isListField_of_isPlain plain _
  refine ⟨deep child (Located.sizeOf_lt_of_mem_children mem)
    (here.there.visitable_of_mem_children mem unlisted), fun free => ?_⟩
  exact (opened free).of_mem_children mem (Tree.isLiteral_of_isPlain here.form plain)

/-- The parts of a child that is a list, or a node of no particular form, are visited in the frame
of the child. -/
theorem AccountsBelow.part {child part : Located}
    (deep : AccountsBelow site moduleId source root child) (there : child.At root)
    (formless : root.formAt? child.place = none ∨ root.formAt? child.place = some .other)
    (opened : isOpen frame → root.OpenAt child.place) (inner : part ∈ child.parts) :
    VisitAccounts site moduleId source root part ∧ (isOpen frame → root.OpenAt part.place) := by
  have mem := Located.mem_children_of_mem_parts inner
  refine ⟨deep part (Located.sizeOf_lt_of_mem_children mem)
    (there.visitable_of_mem_children mem ?_), fun free => (opened free).of_mem_children mem ?_⟩
  · rcases formless with form | form <;> rw [form] <;> rfl
  · rcases formless with form | form <;> simp [Tree.isLiteral, form]

/-- The value of an expression body is given to the function. -/
theorem accounts_visitBody (here : located.Visitable root)
    (form : Form.ofType located.tree.type = .function)
    (deep : AccountsBelow site moduleId source root located) (around : Frame) :
    Accounts site moduleId source root (fun _ => True)
      (visitBody site around (located.body source)) fun _ _ => True := by
  have visited : root.formAt? located.place = some .function := by rw [here.form, form]
  have construct : located.construct source = _ := Located.construct_eq located
  rw [form] at construct
  dsimp only at construct
  revert construct
  unfold Located.body
  cases found : located.child? "body".toList with
  | none =>
    intro _
    rw [visitBody]
    exact Maintains.pure fun _ _ => trivial
  | some body =>
    obtain ⟨mem, field⟩ := Located.mem_children_of_child? found
    have unlisted : (root.formAt? located.place).any (·.isListField body.tree.field) = false := by
      rw [visited, field]
      decide
    have there := here.there.visitable_of_mem_children mem unlisted
    have opened : isOpen (some around) → root.OpenAt body.place :=
      fun _ => .of_function mem visited
    dsimp only
    split
    · rename_i block
      intro _
      have other : root.formAt? body.place = some .other := by
        rw [there.form, block]
        decide
      rw [visitBody]
      exact accounts_visitAll fun node part =>
        (deep.of_mem_children mem).part there.there (.inr other) opened part
    · intro construct
      rw [visitBody]
      refine Maintains.bind (accounts_valueOf
        (deep body (Located.sizeOf_lt_of_mem_children mem) there _ _ opened)) fun value => ?_
      refine accounts_perform (fun _ _ _ => Step.noConfusion) fun steps evaluated => ?_
      exact ⟨⟨_, ⟨located, here.there, construct ▸ .returnedBody around.value value⟩,
        .of_evaluated evaluated⟩, trivial⟩

theorem accounts_function (here : located.Visitable root)
    (form : Form.ofType located.tree.type = .function)
    (deep : AccountsBelow site moduleId source root located)
    (opened : isOpen frame → root.OpenAt located.place) :
    Accounts site moduleId source root (fun _ => True)
      (visit site frame owner (located.construct source))
      (AnswersEvaluated site moduleId frame (located.construct source)) := by
  have stable (id : ValueId) (earlier later : List Step) (grown : earlier <+: later)
      (created : Created site moduleId earlier (some (located.occurrence source)) id) :
      Created site moduleId later (some (located.occurrence source)) id :=
    created.mono grown
  have spelled : (located.construct source).literal? = some (located.occurrence source) := by
    rw [Located.construct_eq, form]
    rfl
  rw [Located.construct_eq, form] at spelled ⊢
  dsimp only at spelled ⊢
  rw [visit]
  refine Maintains.bind (Q := fun id steps =>
    Created site moduleId steps (some (located.occurrence source)) id) (accounts_create ?_)
      fun id => ?_
  · exact fun steps _ => ⟨steps, _, List.prefix_refl _, rfl⟩
  have function : (located.occurrence source).node.kind = .function := by
    simp only [Located.occurrence, Tree.toNode, kindOfType_eq, form]
  have opens : Accounts site moduleId source root
      (Created site moduleId · (some (located.occurrence source)) id)
      (nameFunction site frame (declarationTypes.contains located.tree.type) id
        (located.tree.fieldText? source "name".toList)) fun _ steps =>
          True ∧ Created site moduleId steps (some (located.occurrence source)) id :=
    ((accounts_nameFunction frame _ _ function opened).frame (stable id)).consequence
      (fun _ created => ⟨created, created⟩) fun _ _ done => done
  let own : Frame := ⟨located.occurrence source, id⟩
  refine Maintains.bind opens fun _ => ?_
  refine Maintains.bind (((accounts_addParameters own _).keep (stable id)).consequence
    (fun _ done => done.2) fun _ _ done => done) fun _ => ?_
  refine Maintains.bind (((accounts_visitBody here form deep own).keep (stable id)).consequence
    (fun _ done => done.2) fun _ _ done => done) fun _ => ?_
  refine Maintains.bind (Q := fun _ steps => ∃ before,
    Created site moduleId before (some (located.occurrence source)) id ∧
      steps = before ++ [.document (located.occurrence source) id frame]) ?_ fun _ => ?_
  · refine accounts_perform (fun _ _ _ => Step.noConfusion) fun steps ⟨_, created⟩ => ?_
    refine ⟨.inl ⟨created, fun object => ?_⟩, steps, created, rfl⟩
    exact absurd (function.symm.trans object) (by decide)
  · refine Maintains.pure fun steps ⟨before, created, last⟩ => ?_
    exact .literal spelled created last

section

variable {member : Located} (here : located.Visitable root)
variable (form : Form.ofType located.tree.type = .object)

include form

/-- Nothing is published in the frame of an object literal. -/
theorem isOpen_object (source : Text) (id : ValueId) :
    isOpen (some ⟨located.occurrence source, id⟩) = false := by
  simp only [isOpen, Located.occurrence, Tree.toNode, kindOfType_eq, form]
  rfl

include here

theorem visitable_member (part : member ∈ located.parts) : member.Visitable root := by
  refine here.there.visitable_of_mem_children (Located.mem_children_of_mem_parts part) ?_
  rw [here.form, form]
  rfl

/-- A visit of a member binds it, if it has a key, and documents it. -/
theorem accounts_visitMember (part : member ∈ located.parts)
    (deep : AccountsBelow site moduleId source root located) (id : ValueId) :
    Accounts site moduleId source root
      (Created site moduleId · (some (located.occurrence source)) id)
      (visitMember site ⟨located.occurrence source, id⟩ (member.member source))
      fun _ steps => BoundMember site moduleId steps ⟨located.occurrence source, id⟩
        (member.member source) := by
  let around : Frame := ⟨located.occurrence source, id⟩
  have object : located.construct source =
      .object around.here (root.membersAt source around.here.place) :=
    here.there.construct_object form
  have inside : member.member source ∈ root.membersAt source around.here.place := by
    have members : root.membersAt source around.here.place = _ := here.there.membersAt
    exact members ▸ List.mem_map_of_mem part
  have visitable := visitable_member here form part
  have visited := deep member
    (Located.sizeOf_lt_of_mem_children (Located.mem_children_of_mem_parts part)) visitable
  have closed : isOpen (some around) = false := isOpen_object form source id
  have stable (earlier later : List Step) (grown : earlier <+: later)
      (created : Created site moduleId earlier (some around.here) id) :
      Created site moduleId later (some around.here) id :=
    created.mono grown
  have unopened (place : Place) : isOpen (some around) → root.OpenAt place := by
    intro opened
    rw [closed] at opened
    cases opened
  revert inside
  unfold Located.member
  split_ifs with pair method shorthand
  · intro inside
    have plain : (Form.ofType member.tree.type).isPlain := by
      rw [pair]
      decide
    rw [visitMember]
    refine Maintains.bind ((accounts_visitValue fun node found => ?_).keep stable) fun value => ?_
    · exact (deep.of_mem_children (Located.mem_children_of_mem_parts part)).child visitable plain
        (unopened _) (Located.mem_children_of_child? found).1
    · exact accounts_bindMember here.there object inside rfl rfl
  · intro inside
    rw [visitMember]
    refine Maintains.bind ((visited (some around) none (unopened _)).keep stable) fun answer => ?_
    cases answer with
    | none =>
      refine Maintains.pure fun steps done => ?_
      exact absurd ((Located.literal?_construct_of_method method).symm.trans done.1)
        (Option.some_ne_none _)
    | some value => exact accounts_bindMember here.there object inside rfl rfl
  · intro inside
    rw [visitMember]
    have unbound (later : List Step) :
        BoundMember site moduleId later around (.shorthand (member.tree.text source)) :=
      fun _ _ _ documented => (Option.some_ne_none _ documented.symm).elim
    have bound (value : ValueId) : Accounts site moduleId source root
        (fun steps => Evaluated site moduleId steps (some around)
          (some (.identifier (member.tree.text source) [])) value ∧
            Created site moduleId steps (some around.here) around.value)
        (perform site (.setProperty around.value (member.tree.text source) value))
        fun _ steps => BoundMember site moduleId steps around
          (.shorthand (member.tree.text source)) :=
      (accounts_bindName here.there object inside).consequence (fun _ start => start)
        fun _ later _ => unbound later
    refine Maintains.current fun entry created => ?_
    dsimp only
    split
    · rename_i value known
      refine Maintains.bind (Maintains.pure ?_) bound
      rintro _ rfl
      exact ⟨.name known, created⟩
    · rename_i unknown
      refine Maintains.bind (accounts_create ?_) bound
      rintro _ rfl
      refine ⟨.new rfl rfl ?_ ?_, created.mono (List.prefix_append _ _)⟩
      · rintro _ ⟨rfl⟩
        rfl
      · rintro _ _ ⟨rfl⟩
        exact ⟨_, List.prefix_refl _, unknown⟩
  · intro _
    rw [visitMember]
    refine Maintains.bind ((visited (some around) none (unopened _)).anywhere) fun _ => ?_
    exact Maintains.pure fun _ _ _ _ keyed _ => (Option.some_ne_none _ keyed.symm).elim

theorem accounts_visitMembers {members : List Located} (inside : members ⊆ located.parts)
    (deep : AccountsBelow site moduleId source root located) (id : ValueId) :
    Accounts site moduleId source root
      (Created site moduleId · (some (located.occurrence source)) id)
      (visitMembers site ⟨located.occurrence source, id⟩ (members.map (Located.member source)))
      fun _ steps => ∀ member ∈ members.map (Located.member source),
        BoundMember site moduleId steps ⟨located.occurrence source, id⟩ member := by
  induction members with
  | nil =>
    rw [List.map_nil, visitMembers]
    exact Maintains.pure fun _ _ _ none => absurd none List.not_mem_nil
  | cons member rest ih =>
    rw [List.map_cons, visitMembers]
    have first := accounts_visitMember here form (inside List.mem_cons_self) deep id
    have others := ih fun other mem => inside (List.mem_cons_of_mem _ mem)
    refine Maintains.bind ((first.frame fun _ _ grown created => created.mono grown).consequence
      (fun _ created => ⟨created, created⟩) fun _ _ done => done) fun _ => ?_
    refine ((others.frame fun _ _ grown bound => BoundMember.mono grown bound).consequence
      (fun _ done => ⟨done.2, done.1⟩) fun _ _ done => ?_)
    exact List.forall_mem_cons.mpr ⟨done.2, done.1⟩

theorem accounts_object (deep : AccountsBelow site moduleId source root located) :
    Accounts site moduleId source root (fun _ => True)
      (visit site frame owner (located.construct source))
      (AnswersEvaluated site moduleId frame (located.construct source)) := by
  rw [Located.construct_eq, form]
  dsimp only
  rw [visit]
  refine Maintains.bind (Q := fun id steps =>
    Created site moduleId steps (some (located.occurrence source)) id) (accounts_create ?_)
      fun id => ?_
  · exact fun steps _ => ⟨steps, _, List.prefix_refl _, rfl⟩
  have members := accounts_visitMembers here form (fun _ mem => mem) deep id
  refine Maintains.bind ((members.frame fun _ _ grown created => created.mono grown).consequence
    (fun _ created => ⟨created, created⟩) fun _ _ done => done) fun _ => ?_
  refine Maintains.bind (Q := fun _ steps => ∃ before,
    Created site moduleId before (some (located.occurrence source)) id ∧
      steps = before ++ [.document (located.occurrence source) id frame]) ?_ fun _ => ?_
  · refine accounts_perform (fun _ _ _ => Step.noConfusion) fun steps ⟨bound, created⟩ => ?_
    refine ⟨.inl ⟨created, fun _ => ?_⟩, steps, created, rfl⟩
    rwa [Located.occurrence, here.there.membersAt]
  · refine Maintains.pure fun steps ⟨before, created, last⟩ => ?_
    exact .literal rfl created last

end

theorem accounts_arguments (here : located.Visitable root)
    (form : Form.ofType located.tree.type = .call)
    (deep : AccountsBelow site moduleId source root located)
    (opened : isOpen frame → root.OpenAt located.place) :
    Accounts site moduleId source root (fun _ => True)
      (visitArguments site frame owner (located.arguments source)) fun _ _ => True := by
  have visited : root.formAt? located.place = some .call := by rw [here.form, form]
  unfold Located.arguments
  cases found : located.child? "arguments".toList with
  | none =>
    rw [visitArguments]
    exact Maintains.pure fun _ _ => trivial
  | some list =>
    obtain ⟨mem, field⟩ := Located.mem_children_of_child? found
    have hidden : root.formAt? list.place = none :=
      here.there.formAt?_of_list mem (by rw [visited, field]; decide)
    exact accounts_visitArguments fun node part =>
      (deep.of_mem_children mem).part (here.there.of_mem_children mem) (.inl hidden)
        (fun free => (opened free).of_mem_children mem (by simp [Tree.isLiteral, visited])) part

theorem accounts_callee (here : located.Visitable root)
    (form : Form.ofType located.tree.type = .call)
    (deep : AccountsBelow site moduleId source root located)
    (opened : isOpen frame → root.OpenAt located.place) :
    Accounts site moduleId source root (fun _ => True)
      (visitOptional site frame owner (located.callee source)) fun _ _ => True := by
  have visited : root.formAt? located.place = some .call := by rw [here.form, form]
  refine accounts_visitOptional fun node called => ?_
  obtain ⟨mem, field⟩ := Located.mem_children_of_child? (Option.filter_eq_some_iff.mp called).1
  refine ⟨deep node (Located.sizeOf_lt_of_mem_children mem)
    (here.there.visitable_of_mem_children mem (by rw [visited, field]; decide)), fun free => ?_⟩
  exact (opened free).of_mem_children mem (by simp [Tree.isLiteral, visited])

/-- A return statement gives its value to its owner, if it has one, and documents it. -/
theorem accounts_return {argument : Option Construct} {value : ValueId} (here : located.At root)
    (construct : located.construct source = .returning (located.occurrence source) argument) :
    Accounts site moduleId source root (Traced site moduleId · argument value)
      (do
        match owner with
        | some function =>
          perform site (.appendReturn function value (some (located.occurrence source)))
        | none => pure ()
        perform site (.document (located.occurrence source) value frame)
        return (none : Option ValueId))
      fun answer _ => answer = none := by
  have documents : Accounts site moduleId source root (Traced site moduleId · argument value)
      (do
        perform site (.document (located.occurrence source) value frame)
        return (none : Option ValueId))
      fun answer _ => answer = none := by
    refine Maintains.bind (Q := fun _ _ => True)
      (accounts_perform (fun _ _ _ => Step.noConfusion) ?_)
      fun _ => Maintains.pure fun _ _ => rfl
    intro steps traced
    have given : root.Gives source (.document (located.occurrence source) value frame) argument :=
      ⟨located, here, construct ▸ .documentedReturn value frame⟩
    exact ⟨.inr (.inl ⟨argument, given, traced⟩), trivial⟩
  cases owner with
  | none => exact documents
  | some function =>
    refine Maintains.bind (accounts_use rfl (fun _ _ _ => Step.noConfusion) ?_) fun _ => documents
    intro steps traced
    exact ⟨argument, ⟨located, here, construct ▸ .returned function value⟩, traced⟩

/-- A declarator publishes the value of its expression under the name that it binds. -/
theorem accounts_declare {name : Option Text} {expression : Option Construct} {value : ValueId}
    (here : located.At root) (construct : located.construct source = .declarator name expression) :
    Accounts site moduleId source root (Traced site moduleId · expression value)
      (do
        match name with
        | some name => if isOpen frame then publish site name value
        | none => pure ()
        return (none : Option ValueId))
      fun answer _ => answer = none := by
  cases name with
  | none => exact Maintains.pure fun _ _ => rfl
  | some name =>
    dsimp only
    split
    · exact Maintains.bind (accounts_publish_given ⟨located, here, construct ▸ .declared value⟩)
        fun _ => Maintains.pure fun _ _ => rfl
    · exact Maintains.pure fun _ _ => rfl

theorem visitAccounts (located : Located) (here : located.Visitable root) :
    VisitAccounts site moduleId source root located := by
  have deep : AccountsBelow site moduleId source root located :=
    fun node _ there => visitAccounts node there
  intro frame owner opened
  have field (plain : (Form.ofType located.tree.type).isPlain) (name : Text) :
      ∀ node ∈ located.child? name, VisitAccounts site moduleId source root node ∧
        (isOpen frame → root.OpenAt node.place) := fun node found =>
    deep.child here plain opened (Located.mem_children_of_child? found).1
  have part (plain : (Form.ofType located.tree.type).isPlain) :
      ∀ node ∈ located.parts, VisitAccounts site moduleId source root node ∧
        (isOpen frame → root.OpenAt node.place) := fun node mem =>
    deep.child here plain opened (Located.mem_children_of_mem_parts mem)
  -- what is no literal answers nothing
  have silent {construct : Construct} (plain : construct.literal? = none) (answer : Option ValueId)
      (steps : List Step) (none : answer = none) :
      AnswersEvaluated site moduleId frame construct answer steps := none ▸ plain
  have construct : located.construct source = _ := Located.construct_eq located
  cases form : Form.ofType located.tree.type with
  | function => exact accounts_function here form deep opened
  | object => exact accounts_object here form deep
  | returning =>
    rw [form] at construct field part
    rw [construct]
    dsimp only
    rw [visit]
    refine Maintains.bind (accounts_expression fun node mem =>
      part rfl node (List.mem_of_mem_head? mem)) fun value => ?_
    exact (accounts_return here.there construct).consequence (fun _ start => start) (silent rfl)
  | declarator =>
    rw [form] at construct field
    rw [construct]
    dsimp only
    rw [visit]
    refine Maintains.bind (accounts_expression (field rfl _)) fun value => ?_
    exact (accounts_declare here.there construct).consequence (fun _ start => start) (silent rfl)
  | assignment =>
    rw [form] at construct field
    rw [construct]
    dsimp only
    rw [visit]
    refine Maintains.bind (accounts_expression (field rfl _)) fun value => ?_
    split
    · exact Maintains.bind (accounts_assign here.there construct)
        fun _ => Maintains.pure fun _ _ => rfl
    · exact Maintains.pure fun _ _ => rfl
  | call =>
    rw [construct, form]
    dsimp only
    rw [visit]
    refine Maintains.bind (accounts_arguments here form deep opened) fun values => ?_
    refine Maintains.bind (accounts_callee here form deep opened) fun _ => ?_
    exact Maintains.bind (accounts_exportFrom frame _ values) fun _ => Maintains.pure fun _ _ => rfl
  | identifier =>
    rw [form] at construct part
    rw [construct]
    dsimp only
    rw [visit]
    exact Maintains.bind (accounts_visitAll (part rfl)) fun _ => Maintains.pure fun _ _ => rfl
  | other =>
    rw [form] at construct part
    rw [construct]
    dsimp only
    rw [visit]
    exact Maintains.bind (accounts_visitAll (part rfl)) fun _ => Maintains.pure fun _ _ => rfl
termination_by sizeOf located.tree

/-- The steps of a walk use evaluated values, and all its properties are attributed. -/
theorem evaluation_ofSource (moduleId source : Text) (tree : Tree) :
    Sound (siteOf source tree) moduleId (Accounted (siteOf source tree) moduleId source tree)
        (ofSource moduleId source tree) ∧
      Attributed (siteOf source tree) moduleId source tree
        (ofSource moduleId source tree).history := by
  let program : Located := ⟨[], tree⟩
  have there : program.At tree := rfl
  have read : Construct.topLevel source tree = program.parts.map (Located.construct source) :=
    Located.partsOf_eq program
  have accounts : Accounts (siteOf source tree) moduleId source tree (fun _ => True)
      (visitAll (siteOf source tree) none none (Construct.topLevel source tree))
      fun _ _ => True := by
    rw [read]
    refine accounts_visitAll fun node part => ?_
    have mem := Located.mem_children_of_mem_parts part
    refine ⟨visitAccounts node (there.visitable_of_mem_children mem rfl), fun _ outer around => ?_⟩
    rw [Located.enclosing?_of_mem_children mem] at around
    cases around
  have start : Attributed (siteOf source tree) moduleId source tree [] :=
    fun before _ _ _ taken => absurd taken (by simp)
  obtain ⟨sound, -, attributed, -⟩ := accounts { docs := { moduleId } } ⟨rfl, .nil⟩ ⟨start, trivial⟩
  exact ⟨sound, attributed⟩

end Walk

end CommentDocs
