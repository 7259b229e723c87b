import CommentDocs.Proofs.Module.Isolation
import CommentDocs.Proofs.Module.Stops

/-!
# Every visit is a tour

One contract for each way of visiting a node. The induction is on the size of the node: what is
shown of the nodes below it is used for its parts, and the located nodes tell which parts there
are.
-/

namespace CommentDocs

open Binding Syntax

namespace Syntax.Located

variable {source : Text}

theorem type_of_form_identifier {type : Text} (form : Form.ofType type = .identifier) :
    type = identifierType := by
  unfold Form.ofType at form
  split_ifs at form
  assumption

/-- A construct that is a name is read from an identifier with this text. -/
theorem identifier_of_construct {located : Located} {name : Text} {parts : List Construct}
    (construct : located.construct source = .identifier name parts) :
    located.tree.type = identifierType ∧ located.tree.text source = name := by
  rw [construct_eq] at construct
  cases form : Form.ofType located.tree.type <;> rw [form] at construct <;> cases construct
  exact ⟨type_of_form_identifier form, rfl⟩

end Syntax.Located

namespace Walk

open ModuleDocs (Step)

variable {site : Site} {moduleId source : Text} {root : Tree} {base : List Step} {place : Place}
variable {branches : Nat → Prop} {frame : Option Frame}

/-- A visit answers the value of its node if the node is a literal. -/
def AnswersLiteral (site : Site) (moduleId source : Text) (located : Located)
    (answer : Option ValueId) (steps : List Step) : Prop :=
  ∀ value, answer = some value →
    Created site moduleId steps (some (located.occurrence source)) value

/-- A visit of a node is a tour of the node and all that is below it. -/
def Toured (site : Site) (moduleId source : Text) (root : Tree) (located : Located) : Prop :=
  ∀ base frame, Setting site moduleId root base located.place frame →
    Tours site moduleId source root base located.place 0 4 (fun _ => True)
      (visit site frame (ownerOf frame) (located.construct source))
      (AnswersLiteral site moduleId source located)

theorem Toured.below {located : Located} {low high : Nat} {index : Nat}
    (toured : Toured site moduleId source root located)
    (setting : Setting site moduleId root base located.place frame)
    (inside : branches index) (further : index :: place <:+ located.place) :
    Tours site moduleId source root base place low high branches
      (visit site frame (ownerOf frame) (located.construct source))
      (AnswersLiteral site moduleId source located) :=
  Tours.below inside further (toured base frame setting)

/-- Visits of the nodes below some size are tours. -/
def TouredBelow (site : Site) (moduleId source : Text) (root : Tree) (size : Nat) : Prop :=
  ∀ node : Located, sizeOf node.tree < size → node.Visitable root →
    Toured site moduleId source root node

theorem TouredBelow.mono {size most : Nat} (deep : TouredBelow site moduleId source root most)
    (less : size ≤ most) : TouredBelow site moduleId source root size :=
  fun node small here => deep node (Nat.lt_of_lt_of_le small less) here

theorem tours_visitAll {nodes : List Located} (inRow : Located.InRow place nodes)
    (plain : (root.formAt? place).bind Form.lastField? = none)
    (each : ∀ node ∈ nodes, Toured site moduleId source root node ∧
      Setting site moduleId root base node.place frame) :
    Tours site moduleId source root base place 1 1 (through place nodes)
      (visitAll site frame (ownerOf frame) (nodes.map (Located.construct source)))
      fun _ _ => True := by
  induction nodes generalizing base with
  | nil =>
    rw [List.map_nil, visitAll]
    exact .pure fun _ _ => trivial
  | cons node rest ih =>
    obtain ⟨toured, setting⟩ := each node List.mem_cons_self
    rw [List.map_cons, visitAll]
    refine .cons inRow plain (toured base frame setting) fun _ later grown _ => ?_
    refine ih inRow.tail fun other mem => ?_
    obtain ⟨toured, setting⟩ := each other (List.mem_cons_of_mem _ mem)
    exact ⟨toured, setting.mono grown⟩

theorem tours_visitArguments {nodes : List Located} (inRow : Located.InRow place nodes)
    (plain : (root.formAt? place).bind Form.lastField? = none)
    (each : ∀ node ∈ nodes, Toured site moduleId source root node ∧
      Setting site moduleId root base node.place frame) :
    Tours site moduleId source root base place 1 1 (through place nodes)
      (visitArguments site frame (ownerOf frame) (nodes.map (Located.construct source)))
      fun _ _ => True := by
  induction nodes generalizing base with
  | nil =>
    rw [List.map_nil, visitArguments]
    exact .pure fun _ _ => trivial
  | cons node rest ih =>
    obtain ⟨toured, setting⟩ := each node List.mem_cons_self
    rw [List.map_cons, visitArguments]
    refine .cons inRow plain (toured base frame setting) fun answer later grown _ => ?_
    refine (ih inRow.tail fun other mem => ?_).answer fun _ _ _ => trivial
    obtain ⟨toured, setting⟩ := each other (List.mem_cons_of_mem _ mem)
    exact ⟨toured, setting.mono grown⟩

/-- The value of an expression below a node. A value that is made for it is made at the node. -/
theorem tours_valueOf {child : Located} {index : Nat}
    (toured : Toured site moduleId source root child)
    (setting : Setting site moduleId root base child.place frame)
    (inside : branches index) (further : index :: place <:+ child.place) :
    Tours site moduleId source root base place 1 1 branches
      (valueOf site (child.construct source)
        (visit site frame (ownerOf frame) (child.construct source)))
      fun value steps => ComesTo site moduleId source steps child value := by
  unfold valueOf
  refine .current fun entry started => ?_
  split
  · rename_i id known
    refine .pure ?_
    cases spelled : child.construct source with
    | identifier name parts =>
      obtain ⟨named, rfl⟩ := Located.identifier_of_construct spelled
      rw [spelled] at known
      exact .name named known
    | _ => rw [spelled] at known; cases known
  · refine Tours.close 1 1 (toured.below (setting.mono started) inside further) ?_
      ⟨Nat.le_refl _, Nat.le_refl _, by decide⟩ entry (List.prefix_refl _)
    intro answer middle _ created
    cases answer with
    | some id =>
      refine .pure fun steps grown => .literal ?_
      exact (created id rfl).mono grown
    | none =>
      refine (Tours.create _).mono_post fun value steps fresh => ?_
      obtain ⟨before, last, fresh⟩ := fresh
      exact .new last fresh

theorem tours_visitValue {child : Option Located}
    (each : ∀ node ∈ child, Toured site moduleId source root node ∧
      Setting site moduleId root base node.place frame ∧
        ∃ index, branches index ∧ index :: place <:+ node.place) :
    Tours site moduleId source root base place 1 1 branches
      (visitValue site frame (ownerOf frame) (child.map (Located.construct source)))
      fun _ _ => True := by
  cases child with
  | none =>
    rw [Option.map_none, visitValue]
    exact (Tours.create _).mono_post fun _ _ _ => trivial
  | some node =>
    obtain ⟨toured, setting, index, inside, further⟩ := each node rfl
    rw [Option.map_some, visitValue]
    exact (tours_valueOf toured setting inside further).mono_post fun _ _ _ => trivial

theorem tours_visitOptional {child : Option Located}
    (each : ∀ node ∈ child, Toured site moduleId source root node ∧
      Setting site moduleId root base node.place frame ∧
        ∃ index, branches index ∧ index :: place <:+ node.place) :
    Tours site moduleId source root base place 1 1 branches
      (visitOptional site frame (ownerOf frame) (child.map (Located.construct source)))
      fun _ _ => True := by
  cases child with
  | none =>
    rw [Option.map_none, visitOptional]
    exact .pure fun _ _ => trivial
  | some node =>
    obtain ⟨toured, setting, index, inside, further⟩ := each node rfl
    rw [Option.map_some, visitOptional]
    exact (toured.below setting inside further).answer fun _ _ _ => trivial

section

variable {located : Located}

/-- A child is toured unless it is a list. -/
theorem toured_of_mem_children (here : located.Visitable root) {child : Located}
    (mem : child ∈ located.children)
    (plain : (root.formAt? located.place).any (·.isListField child.tree.field) = false)
    (deep : TouredBelow site moduleId source root (sizeOf located.tree)) :
    Toured site moduleId source root child :=
  deep child (Located.sizeOf_lt_of_mem_children mem)
    (here.there.visitable_of_mem_children mem plain)

/-- The parts of a child that is a list, or a node of no particular form, are visited in the frame
of the child. -/
theorem toured_part {child part : Located} (there : child.At root)
    (mem : child ∈ located.children) (inner : part ∈ child.parts)
    (formless : root.formAt? child.place = none ∨ root.formAt? child.place = some .other)
    (deep : TouredBelow site moduleId source root (sizeOf located.tree))
    (setting : Setting site moduleId root base child.place frame) :
    Toured site moduleId source root part ∧ Setting site moduleId root base part.place frame := by
  have below := Located.mem_children_of_mem_parts inner
  have small := Nat.lt_trans (Located.sizeOf_lt_of_mem_children below)
    (Located.sizeOf_lt_of_mem_children mem)
  refine ⟨deep part small (there.visitable_of_mem_children below ?_),
    setting.of_mem_children below ?_⟩
  · rcases formless with form | form <;> rw [form] <;> rfl
  · rcases formless with form | form <;> simp [Tree.isLiteral, form]

theorem ownerOf_function {frame : Frame} (function : frame.here.node.kind = .function) :
    ownerOf (some frame) = some frame.value := by
  rw [ownerOf, Option.bind_some, if_pos function]

/-- The body of a function that is an expression. -/
theorem expressionBody?_of_visitable (here : located.Visitable root)
    (form : Form.ofType located.tree.type = .function) :
    root.expressionBody? located.place =
      (located.child? "body".toList).filter fun body => body.tree.type ≠ blockType := by
  rw [Tree.expressionBody?, here.there, Option.filter_some_pos (by simp [form]), Option.bind_some]

/-- The value of an expression body is appended right after the expression has come to it. -/
theorem tours_expressionBody {body : Located} {frame : Frame} {index : Nat}
    (own : frame.here.place = located.place)
    (held : Created site moduleId base (some frame.here) frame.value)
    (spelled : root.expressionBody? located.place = some body)
    (toured : Toured site moduleId source root body)
    (setting : Setting site moduleId root base body.place (some frame))
    (inside : branches index) (further : index :: located.place <:+ body.place) :
    Tours site moduleId source root base located.place 1 2 branches
      (do
        let value ← valueOf site (body.construct source)
          (visit site (some frame) (ownerOf (some frame)) (body.construct source))
        perform site (.appendReturn frame.value value none)) fun _ steps =>
      ∃ value, BodyReturned site moduleId source root steps frame.here body frame.value value := by
  intro entry started
  refine (tours_valueOf toured setting inside further entry started).close 2 2
    (fun value middle grown comes => ?_) ⟨by decide, by decide, by decide⟩
  have returned : BodyReturned site moduleId source root
      (middle ++ [.appendReturn frame.value value none]) frame.here body frame.value value :=
    ⟨held.mono ((started.trans grown).trans (List.prefix_append _ _)), own ▸ spelled,
      middle, List.prefix_refl _, comes⟩
  exact .perform ⟨frame.here, body, own, returned⟩ rfl ⟨value, returned⟩

/-- The body of a function; the value of an expression body is appended to the returns. -/
theorem tours_visitBody (here : located.Visitable root)
    (form : Form.ofType located.tree.type = .function) (frame : Frame)
    (own : frame.here.place = located.place) (function : frame.here.node.kind = .function)
    (held : Created site moduleId base (some frame.here) frame.value)
    (deep : TouredBelow site moduleId source root (sizeOf located.tree)) :
    Tours site moduleId source root base located.place 1 2
      (fun index => root.fieldAt? (index :: located.place) = some "body".toList)
      (visitBody site frame (located.body source)) fun _ steps =>
        ∀ body, root.expressionBody? located.place = some body → ∃ value,
          BodyReturned site moduleId source root steps frame.here body frame.value value := by
  have visited : root.formAt? located.place = some .function := by rw [here.form, form]
  have literal : root.isLiteral located.place = true := by simp [Tree.isLiteral, visited]
  have spelled := expressionBody?_of_visitable here form
  unfold Located.body
  cases found : located.child? "body".toList with
  | none =>
    rw [found, Option.filter_none] at spelled
    rw [visitBody]
    exact .pure fun _ _ body expression => by simp [spelled] at expression
  | some body =>
    obtain ⟨mem, field⟩ := Located.mem_children_of_child? found
    have plain : (root.formAt? located.place).any (·.isListField body.tree.field) = false := by
      rw [visited, field]
      decide
    obtain ⟨index, placed, filled⟩ := here.there.exists_branch mem
    have setting : Setting site moduleId root base body.place (some frame) :=
      .of_literal mem literal own held
    have inside : root.fieldAt? (index :: located.place) = some "body".toList :=
      filled.trans field
    have further : index :: located.place <:+ body.place := placed ▸ List.suffix_refl body.place
    dsimp only
    split
    · rename_i block
      rw [visitBody, ← ownerOf_function function]
      rw [found, Option.filter_some_neg (by simp [block])] at spelled
      have bodyHere := here.there.visitable_of_mem_children mem plain
      have other : root.formAt? body.place = some .other := by
        rw [bodyHere.form, block]
        decide
      have parts := tours_visitAll (Located.inRow_parts body) (by rw [other]; rfl)
        fun node part => toured_part bodyHere.there mem part (.inr other) deep setting
      exact (parts.below inside further).mono_post
        fun _ _ _ body expression => by simp [spelled] at expression
    · rename_i expression
      rw [visitBody, ← ownerOf_function function]
      rw [found, Option.filter_some_pos (by simpa using expression)] at spelled
      have toured := toured_of_mem_children here mem plain deep
      refine (tours_expressionBody own held spelled toured setting inside further).mono_post
        fun _ steps returned other same => ?_
      cases Option.some.inj (spelled.symm.trans same)
      exact returned

/-- The end of a visit of a literal. -/
theorem tours_document_literal {here : Occurrence} (shown : root.Shows source here)
    (value : ValueId) (setting : Setting site moduleId root base here.place frame)
    (literal : here.node.kind = .function ∨ here.node.kind = .object) :
    Tours site moduleId source root base here.place 3 3 nowhere
      (do perform site (.document here value frame); return some value)
      fun answer _ => answer = some value := by
  have other : here.node.kind ≠ .returning ∧ here.node.kind ≠ .property := by
    rcases literal with kind | kind <;> rw [kind] <;> decide
  have tours := tours_document shown value setting (.inl other.1)
  rw [stage_document_of_ne other.2] at tours
  exact tours.answer fun _ _ _ => rfl

theorem tours_function (here : located.Visitable root)
    (form : Form.ofType located.tree.type = .function)
    (deep : TouredBelow site moduleId source root (sizeOf located.tree))
    (setting : Setting site moduleId root base located.place frame) :
    Tours site moduleId source root base located.place 0 3 (fun _ => True)
      (visit site frame (ownerOf frame)
        (.function (located.occurrence source) (declarationTypes.contains located.tree.type)
          (located.tree.fieldText? source "name".toList) (located.parameters source)
          (located.body source)))
      (AnswersLiteral site moduleId source located) := by
  have function : (located.occurrence source).node.kind = .function := by
    simp only [Located.occurrence, Tree.toNode, kindOfType_eq, form]
  have visited : root.formAt? located.place = some .function := by rw [here.form, form]
  have shown : root.Shows source (located.occurrence source) := ⟨located.tree, here.there, .inl rfl⟩
  have turn (left right : Nat)
      (list : Form.function.isListField (root.fieldAt? (left :: located.place)) = true)
      (body : root.fieldAt? (right :: located.place) = some "body".toList) :
      root.VisitsBefore located.place left right :=
    .list visited rfl list body
  rw [visit]
  refine Tours.create_literal shown _ fun id entry started created => ?_
  let own : Frame := ⟨located.occurrence source, id⟩
  have held (later : List Step) (grown : entry <+: later) :
      Created site moduleId later (some own.here) own.value := created.mono grown
  have documented (later : List Step) (grown : entry <+: later) :=
    tours_document_literal shown id (setting.mono (started.trans grown)) (.inl function)
  have body (later : List Step) (grown : entry <+: later) :
      Tours site moduleId source root later located.place 1 3
        (fun index => root.fieldAt? (index :: located.place) = some "body".toList)
        (do
          visitBody site own (located.body source)
          perform site (.document (located.occurrence source) id frame)
          return some id)
        fun answer steps => answer = some id ∧
          ∀ body, root.expressionBody? located.place = some body → ∃ function value,
            BodyReturned site moduleId source root steps (located.occurrence source) body function
              value := by
    refine (tours_visitBody here form own rfl function (held later grown) deep).close 3 3
      (fun _ middle further returned => ?_) ⟨by decide, by decide, by decide⟩
    refine (documented middle (grown.trans further)).keep fun steps last body found => ?_
    obtain ⟨value, done⟩ := returned body found
    exact ⟨id, value, done.mono last⟩
  have parameters (later : List Step) (grown : entry <+: later) :=
    (tours_parameters here form own rfl (held later grown)).go_on
      (fun _ middle further _ => body middle (grown.trans further)) (by decide) turn
  have named := (tours_nameFunction here.there form frame id).go_on
      (fun _ middle further _ => parameters middle further) (by decide) (fun _ _ none => none.elim)
  refine ((named.keep held).weaken (Nat.le_refl 1) (Nat.le_refl 3) fun _ _ => trivial).mono_post ?_
  rintro answer steps ⟨⟨rfl, returned⟩, created⟩
  refine ⟨returned, ?_⟩
  rintro _ ⟨rfl⟩
  exact created

theorem ownerOf_object {frame : Frame} (object : frame.here.node.kind = .object) :
    ownerOf (some frame) = none := by
  rw [ownerOf, Option.bind_some, if_neg (by rw [object]; decide)]

section

variable {member : Located} {frame : Frame}

/-- A member is documented as a property after its value has been bound. -/
theorem tours_bindMember {here : Occurrence} (same : here.place = member.place)
    (shown : root.Shows source here) (property : here.node.kind = .property) (value : ValueId)
    (setting : Setting site moduleId root base member.place (some frame)) :
    Tours site moduleId source root base member.place 4 5 nowhere
      (do
        addMember site frame.value here.node.keyName value
        perform site (.document here value (some frame))) fun _ _ => True := by
  refine (tours_addMember frame.value here.node.keyName value).close 5 5
    (fun _ middle further _ => ?_) ⟨by decide, by decide, by decide⟩
  rw [← same] at setting ⊢
  have tours := tours_document shown value (setting.mono further)
    (.inl (by rw [property]; decide))
  rwa [stage_document_of_property property] at tours

theorem tours_pair (here : member.Visitable root) (pair : member.tree.type = pairType)
    (deep : TouredBelow site moduleId source root (sizeOf member.tree))
    (object : frame.here.node.kind = .object)
    (setting : Setting site moduleId root base member.place (some frame)) :
    Tours site moduleId source root base member.place 0 5 (fun _ => True)
      (visitMember site frame
        (.pair (member.occurrence source) (member.fieldValue source "value".toList)))
      fun _ _ => True := by
  have form : Form.ofType member.tree.type = .other := by rw [pair]; decide
  have other : root.formAt? member.place = some .other := by rw [here.form, form]
  have property : kindOfType member.tree.type = .property := by rw [pair]; decide
  have shown : root.Shows source (member.occurrence source) := ⟨member.tree, here.there, .inl rfl⟩
  rw [visitMember, ← ownerOf_object object, Located.fieldValue]
  refine Tours.weaken (Nat.zero_le 1) (Nat.le_refl 5) (fun _ inside => inside)
    ((tours_visitValue fun node found => ?_).close 4 5 (fun value _ grown _ =>
      tours_bindMember rfl shown property value (setting.mono grown))
      ⟨by decide, by decide, by decide⟩)
  obtain ⟨mem, -⟩ := Located.mem_children_of_child? found
  obtain ⟨index, placed, -⟩ := Located.mem_children mem
  exact ⟨toured_of_mem_children here mem (by rw [other]; rfl) deep,
    setting.of_mem_children mem (by simp [Tree.isLiteral, other]), index, trivial,
    placed ▸ List.suffix_refl node.place⟩

theorem tours_method (here : member.Visitable root) (method : member.tree.type = methodType)
    (deep : TouredBelow site moduleId source root (sizeOf member.tree))
    (object : frame.here.node.kind = .object)
    (setting : Setting site moduleId root base member.place (some frame)) :
    Tours site moduleId source root base member.place 0 5 (fun _ => True)
      (visitMember site frame
        (.method ⟨member.place, { member.tree.toNode source with kind := .property }⟩
          (member.construct source)))
      fun _ _ => True := by
  have form : Form.ofType member.tree.type = .function := by rw [method]; decide
  have toured := tours_function here form deep setting
  have construct : member.construct source = _ := member.construct_eq
  rw [form] at construct
  rw [visitMember, construct, ← ownerOf_object object]
  refine toured.close 4 5 (fun answer middle grown _ => ?_) ⟨by decide, by decide, by decide⟩
  cases answer with
  | none => exact .pure fun _ _ => trivial
  | some value =>
    have shown : root.Shows source
        ⟨member.place, { member.tree.toNode source with kind := .property }⟩ :=
      ⟨member.tree, here.there, .inr ⟨method, rfl⟩⟩
    exact tours_bindMember rfl shown rfl value (setting.mono grown)

theorem tours_shorthand (name : Text) :
    Tours site moduleId source root base place 0 5 (fun _ => True)
      (visitMember site frame (.shorthand name)) fun _ _ => True := by
  have bound (value : ValueId) (later : List Step) :
      Tours site moduleId source root later place 4 4 nowhere
        (perform site (.setProperty frame.value name value)) fun _ _ => True :=
    .perform_free (.setProperty frame.value _ value) 4 rfl (fun _ => trivial) rfl
  rw [visitMember]
  refine Tours.weaken (Nat.zero_le 1) (by decide : 4 ≤ 5) (fun _ inside => inside)
    (.current fun entry _ => ?_)
  dsimp only
  split
  · rename_i id _
    rw [pure_bind]
    exact (bound id entry).weaken (by decide) (Nat.le_refl _) (fun _ none => none.elim) entry
      (List.prefix_refl _)
  · exact (Tours.create ModelType.any).close 4 4 (fun value middle _ _ => bound value middle)
      ⟨by decide, by decide, by decide⟩ entry (List.prefix_refl _)

theorem tours_visitMember {size : Nat} (here : member.Visitable root)
    (deep : TouredBelow site moduleId source root size) (small : sizeOf member.tree < size)
    (object : frame.here.node.kind = .object)
    (setting : Setting site moduleId root base member.place (some frame)) :
    Tours site moduleId source root base member.place 0 5 (fun _ => True)
      (visitMember site frame (member.member source)) fun _ _ => True := by
  have below := deep.mono (Nat.le_of_lt small)
  unfold Located.member
  split
  · rename_i pair
    exact tours_pair here pair below object setting
  · split
    · rename_i method
      exact tours_method here method below object setting
    · split
      · exact tours_shorthand _
      · rw [visitMember, ← ownerOf_object object]
        have toured := deep member small here base (some frame) setting
        exact (toured.answer fun _ _ _ => trivial).weaken (Nat.le_refl _) (by decide)
          fun _ inside => inside

end

theorem tours_visitMembers {members : List Located} {size : Nat}
    (inRow : Located.InRow place members)
    (plain : (root.formAt? place).bind Form.lastField? = none) {frame : Frame}
    (object : frame.here.node.kind = .object)
    (deep : TouredBelow site moduleId source root size)
    (each : ∀ member ∈ members, member.Visitable root ∧
      Setting site moduleId root base member.place (some frame) ∧ sizeOf member.tree < size) :
    Tours site moduleId source root base place 1 1 (through place members)
      (visitMembers site frame (members.map (Located.member source))) fun _ _ => True := by
  induction members generalizing base with
  | nil =>
    rw [List.map_nil, visitMembers]
    exact .pure fun _ _ => trivial
  | cons member rest ih =>
    obtain ⟨here, setting, small⟩ := each member List.mem_cons_self
    rw [List.map_cons, visitMembers]
    refine .cons inRow plain (tours_visitMember here deep small object setting)
      fun _ later grown _ => ?_
    refine ih inRow.tail fun other mem => ?_
    obtain ⟨here, setting, small⟩ := each other (List.mem_cons_of_mem _ mem)
    exact ⟨here, setting.mono grown, small⟩

theorem tours_object (here : located.Visitable root)
    (form : Form.ofType located.tree.type = .object)
    (deep : TouredBelow site moduleId source root (sizeOf located.tree))
    (setting : Setting site moduleId root base located.place frame) :
    Tours site moduleId source root base located.place 0 3 (fun _ => True)
      (visit site frame (ownerOf frame)
        (.object (located.occurrence source) (located.parts.map (Located.member source))))
      (AnswersLiteral site moduleId source located) := by
  have object : (located.occurrence source).node.kind = .object := by
    simp only [Located.occurrence, Tree.toNode, kindOfType_eq, form]
  have visited : root.formAt? located.place = some .object := by rw [here.form, form]
  have shown : root.Shows source (located.occurrence source) := ⟨located.tree, here.there, .inl rfl⟩
  have bodiless : root.expressionBody? located.place = none := by
    rw [Tree.expressionBody?, here.there, Option.filter_some_neg (by simp [form]),
      Option.bind_none]
  rw [visit]
  refine Tours.create_literal shown _ fun id entry started created => ?_
  let own : Frame := ⟨located.occurrence source, id⟩
  have held (later : List Step) (grown : entry <+: later) :
      Created site moduleId later (some own.here) own.value := created.mono grown
  have documented (later : List Step) (grown : entry <+: later) :=
    tours_document_literal shown id (setting.mono (started.trans grown)) (.inr object)
  have members : Tours site moduleId source root entry located.place 1 1
      (through located.place located.parts)
      (visitMembers site own (located.parts.map (Located.member source))) fun _ _ => True := by
    refine tours_visitMembers (Located.inRow_parts located) (by rw [visited]; rfl) object deep ?_
    intro member part
    have mem := Located.mem_children_of_mem_parts part
    exact ⟨here.there.visitable_of_mem_children mem (by rw [visited]; rfl),
      .of_literal mem (by simp [Tree.isLiteral, visited]) rfl (held entry (List.prefix_refl _)),
      Located.sizeOf_lt_of_mem_children mem⟩
  have all := members.close 3 3 (fun _ middle further _ => documented middle further)
    ⟨by decide, by decide, by decide⟩
  refine ((all.keep held).weaken (Nat.le_refl 1) (Nat.le_refl 3) fun _ _ => trivial).mono_post ?_
  rintro answer steps ⟨rfl, created⟩
  refine ⟨fun body found => ?_, ?_⟩
  · rw [Located.occurrence, bodiless] at found
    cases found
  · rintro _ ⟨rfl⟩
    exact created

/-- The children of a plain node are visited in its frame. -/
theorem toured_child (here : located.Visitable root)
    (plain : (Form.ofType located.tree.type).isPlain)
    (deep : TouredBelow site moduleId source root (sizeOf located.tree))
    (setting : Setting site moduleId root base located.place frame) {child : Located}
    (mem : child ∈ located.children) :
    Toured site moduleId source root child ∧
      Setting site moduleId root base child.place frame ∧
        ∃ index, True ∧ index :: located.place <:+ child.place := by
  have unlisted : (root.formAt? located.place).any (·.isListField child.tree.field) = false := by
    rw [here.form]
    exact Form.isListField_of_isPlain plain _
  obtain ⟨index, placed, -⟩ := Located.mem_children mem
  exact ⟨toured_of_mem_children here mem unlisted deep,
    setting.of_mem_children mem (Tree.isLiteral_of_isPlain here.form plain), index, trivial,
    placed ▸ List.suffix_refl child.place⟩

/-- A plain node that is visited for its parts. -/
theorem tours_parts (here : located.Visitable root)
    (plain : (Form.ofType located.tree.type).isPlain)
    (deep : TouredBelow site moduleId source root (sizeOf located.tree))
    (setting : Setting site moduleId root base located.place frame) :
    Tours site moduleId source root base located.place 0 4 (fun _ => True)
      (do
        visitAll site frame (ownerOf frame) (located.parts.map (Located.construct source))
        return (none : Option ValueId))
      fun answer _ => answer = none := by
  refine Tours.weaken (Nat.zero_le 1) (by decide : 1 ≤ 4) (fun _ _ => trivial)
    ((tours_visitAll (Located.inRow_parts located) ?_ fun node mem => ?_).answer fun _ _ _ => rfl)
  · rw [here.form]
    exact Form.lastField?_of_isPlain plain
  · obtain ⟨toured, around, -⟩ :=
      toured_child here plain deep setting (Located.mem_children_of_mem_parts mem)
    exact ⟨toured, around⟩

/-- A plain node that is visited for the value of an expression. -/
theorem tours_expression (here : located.Visitable root)
    (plain : (Form.ofType located.tree.type).isPlain)
    (deep : TouredBelow site moduleId source root (sizeOf located.tree))
    (setting : Setting site moduleId root base located.place frame) {child : Option Located}
    (inside : ∀ node ∈ child, node ∈ located.children)
    {next : ValueId → StateM Walk (Option ValueId)}
    (rest : ∀ value middle, base <+: middle →
      Tours site moduleId source root middle located.place 1 4 nowhere (next value)
        fun answer _ => answer = none) :
    Tours site moduleId source root base located.place 0 4 (fun _ => True)
      (visitValue site frame (ownerOf frame) (child.map (Located.construct source)) >>= next)
      fun answer _ => answer = none := by
  have value : Tours site moduleId source root base located.place 1 1 (fun _ => True)
      (visitValue site frame (ownerOf frame) (child.map (Located.construct source)))
      fun _ _ => True :=
    tours_visitValue fun node mem => toured_child here plain deep setting (inside node mem)
  exact (value.close 1 4 (fun id middle grown _ => rest id middle grown)
    ⟨by decide, by decide, by decide⟩).weaken (Nat.zero_le 1) (Nat.le_refl 4) fun _ inside => inside

theorem tours_arguments (here : located.Visitable root)
    (form : Form.ofType located.tree.type = .call)
    (deep : TouredBelow site moduleId source root (sizeOf located.tree))
    (setting : Setting site moduleId root base located.place frame) :
    Tours site moduleId source root base located.place 1 1
      (fun index => Form.call.isListField (root.fieldAt? (index :: located.place)) = true)
      (visitArguments site frame (ownerOf frame) (located.arguments source)) fun _ _ => True := by
  have visited : root.formAt? located.place = some .call := by rw [here.form, form]
  unfold Located.arguments
  cases found : located.child? "arguments".toList with
  | none =>
    rw [visitArguments]
    exact .pure fun _ _ => trivial
  | some list =>
    obtain ⟨mem, field⟩ := Located.mem_children_of_child? found
    obtain ⟨index, placed, filled⟩ := here.there.exists_branch mem
    have hidden : root.formAt? list.place = none :=
      here.there.formAt?_of_list mem (by rw [visited, field]; decide)
    have around := setting.of_mem_children mem (by simp [Tree.isLiteral, visited])
    have further : index :: located.place <:+ list.place := placed ▸ List.suffix_refl list.place
    have parts := tours_visitArguments (Located.inRow_parts list) (by rw [hidden]; rfl)
      fun node part =>
        toured_part (here.there.of_mem_children mem) mem part (.inl hidden) deep around
    exact parts.below (by rw [filled, field]; decide) further

theorem tours_callee (here : located.Visitable root)
    (form : Form.ofType located.tree.type = .call)
    (deep : TouredBelow site moduleId source root (sizeOf located.tree))
    (setting : Setting site moduleId root base located.place frame) :
    Tours site moduleId source root base located.place 1 1
      (fun index => root.fieldAt? (index :: located.place) = some "function".toList)
      (visitOptional site frame (ownerOf frame) (located.callee source)) fun _ _ => True := by
  have visited : root.formAt? located.place = some .call := by rw [here.form, form]
  refine tours_visitOptional fun node called => ?_
  obtain ⟨mem, field⟩ := Located.mem_children_of_child? (Option.filter_eq_some_iff.mp called).1
  obtain ⟨index, placed, filled⟩ := here.there.exists_branch mem
  exact ⟨toured_of_mem_children here mem (by rw [visited, field]; decide) deep,
    setting.of_mem_children mem (by simp [Tree.isLiteral, visited]), index, filled.trans field,
    placed ▸ List.suffix_refl node.place⟩

/-- A call visits its arguments before what it calls. -/
theorem tours_call (here : located.Visitable root) (form : Form.ofType located.tree.type = .call)
    (deep : TouredBelow site moduleId source root (sizeOf located.tree))
    (setting : Setting site moduleId root base located.place frame) :
    Tours site moduleId source root base located.place 0 4 (fun _ => True)
      (visit site frame (ownerOf frame)
        (.call ((located.tree.fieldText? source "function".toList).getD [])
          (located.callee source) (located.arguments source)))
      (AnswersLiteral site moduleId source located) := by
  have visited : root.formAt? located.place = some .call := by rw [here.form, form]
  rw [visit]
  refine Tours.weaken (Nat.zero_le 1) (by decide : 1 ≤ 4) (fun _ _ => trivial)
    ((tours_arguments here form deep setting).go_on (fun values middle grown _ =>
      (tours_callee here form deep (setting.mono grown)).close 1 1
        (fun _ _ _ _ => (tours_exportFrom frame _ values).answer fun _ _ _ => ?_)
        ⟨by decide, by decide, by decide⟩) (Nat.le_refl 1) ?_)
  · rintro value ⟨⟩
  · exact fun left right list called => .list visited rfl list called

theorem toured (located : Located) (here : located.Visitable root) :
    Toured site moduleId source root located := by
  have deep : TouredBelow site moduleId source root (sizeOf located.tree) :=
    fun node _ there => toured node there
  intro base frame setting
  have silent (answer : Option ValueId) (steps : List Step) (same : answer = none) :
      AnswersLiteral site moduleId source located answer steps := by
    rintro value rfl
    cases same
  have field {name : Text} (node : Located) (found : located.child? name = some node) :
      node ∈ located.children := (Located.mem_children_of_child? found).1
  rw [Located.construct_eq]
  cases form : Form.ofType located.tree.type with
  | function =>
    exact (tours_function here form deep setting).weaken (Nat.le_refl 0) (by decide)
      fun _ inside => inside
  | object =>
    exact (tours_object here form deep setting).weaken (Nat.le_refl 0) (by decide)
      fun _ inside => inside
  | call => exact tours_call here form deep setting
  | returning =>
    have shown : root.Shows source (located.occurrence source) :=
      ⟨located.tree, here.there, .inl rfl⟩
    have returning : (located.occurrence source).node.kind = .returning := by
      simp only [Located.occurrence, Tree.toNode, kindOfType_eq, form]
    have visible : (root.formAt? (located.occurrence source).place).isSome := by
      rw [Located.occurrence, here.form, Option.isSome_some]
    dsimp only
    rw [visit]
    refine (tours_expression here (by rw [form]; rfl) deep setting (fun node mem => ?_)
      fun value middle grown => ?_).mono_post silent
    · exact Located.mem_children_of_mem_parts (List.mem_of_mem_head? mem)
    · exact (tours_return shown returning visible value (setting.mono grown)).weaken
        (Nat.le_refl 1) (by decide) fun _ inside => inside
  | declarator =>
    dsimp only
    rw [visit]
    refine (tours_expression here (by rw [form]; rfl) deep setting field
      fun value middle grown => ?_).mono_post silent
    refine (tours_declare here.there form frame value).weaken (Nat.le_refl 1) (by decide) ?_
    exact fun _ none => none
  | assignment =>
    dsimp only
    rw [visit]
    refine (tours_expression here (by rw [form]; rfl) deep setting field
      fun value middle grown => ?_).mono_post silent
    split
    · exact (tours_assign here.there form value).answer fun _ _ _ => rfl
    · exact .pure fun _ _ => rfl
  | identifier =>
    dsimp only
    rw [visit]
    exact (tours_parts here (by rw [form]; rfl) deep setting).mono_post silent
  | other =>
    dsimp only
    rw [visit]
    exact (tours_parts here (by rw [form]; rfl) deep setting).mono_post silent
termination_by sizeOf located.tree

end

/-- The steps of a walk through a source, each with the place of its node, are a tour of the
tree. -/
theorem tour_ofSource (moduleId source : Text) (tree : Tree) :
    ∃ taken : List Taken, (ofSource moduleId source tree).history = taken.map (·.step) ∧
      Tour (siteOf source tree) moduleId source tree (ofSource moduleId source tree).history []
        1 1 (fun _ => True) taken := by
  let program : Located := ⟨[], tree⟩
  have there : program.At tree := rfl
  have visits : Tours (siteOf source tree) moduleId source tree [] [] 1 1
      (through [] program.parts)
      (visitAll (siteOf source tree) none none (Construct.topLevel source tree))
      fun _ _ => True := by
    have read : Construct.topLevel source tree = program.parts.map (Located.construct source) :=
      Located.partsOf_eq program
    rw [read]
    refine tours_visitAll (Located.inRow_parts program) rfl fun node part => ?_
    have mem := Located.mem_children_of_mem_parts part
    refine ⟨toured node (there.visitable_of_mem_children mem rfl), ?_, by rintro _ ⟨⟩⟩
    rw [Located.enclosing?_of_mem_children mem]
    rfl
  have walked := (visits [] (List.prefix_refl _)).mono_post fun _ _ done => done.1
  obtain ⟨-, -, taken, steps, tour⟩ :=
    walked { docs := { moduleId } } ⟨rfl, .nil⟩ rfl
  exact ⟨taken, steps, tour.weaken (Nat.le_refl 1) (Nat.le_refl 1) fun _ _ => trivial⟩

end Walk

end CommentDocs
