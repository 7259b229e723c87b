import CommentDocs.Proofs.Binding.KeyComment
import CommentDocs.Proofs.Binding.Uses
import CommentDocs.Proofs.Module.Fresh

/-!
# What documents a member of an object literal

A member of an object literal is documented twice, if its value is its own: by the comment right
before it when it is bound, and by the body comment of the literal, under the member's key, when all
members have been bound. Nothing else in the walk documents it from the time at which it was
evaluated. No name stands for it, it is a property at one place only, and no other member takes this
place.

Merging joins lists of tags, so the tags of the member grow by those of the two comments, one after
the other. Both may be the same token: then its tags are added twice.
-/

namespace CommentDocs

open Binding Syntax

namespace Syntax

/-- A member that is documented is documented under its key. -/
theorem Member.keyName_of_documented? {member : Member} {key : Text} {there : Occurrence}
    (keyed : member.key? = some key) (documented : member.documented? = some there) :
    there.node.keyName = some key ∧ key ≠ [] := by
  have filtered : there.node.keyName.filter (· ≠ []) = some key := by
    cases member <;> cases documented <;> exact keyed
  obtain ⟨named, nonempty⟩ := Option.filter_eq_some_iff.mp filtered
  exact ⟨named, of_decide_eq_true nonempty⟩

/-- A member is documented as a property. -/
theorem Tree.kind_of_mem_membersAt {source : Text} {root : Tree} {place : Place} {member : Member}
    {there : Occurrence} (mem : member ∈ root.membersAt source place)
    (documented : member.documented? = some there) : there.node.kind = .property := by
  obtain ⟨located, rfl⟩ : ∃ located : Located, located.member source = member := by
    rw [Tree.membersAt] at mem
    cases found : root.nodeAt? place with
    | none => simp [found] at mem
    | some node =>
      rw [found] at mem
      obtain ⟨located, -, same⟩ := List.mem_map.mp mem
      exact ⟨located, same⟩
  unfold Located.member at documented
  split_ifs at documented with pair method shorthand
  · cases documented
    have property : kindOfType located.tree.type = .property := by
      rw [pair]
      decide
    exact property
  · cases documented
    rfl
  · cases documented
  · cases documented

end Syntax

/-- A node that is an object literal by its kind is not visited as a function. -/
theorem Syntax.Tree.Shows.formAt?_ne_function {source : Text} {root : Tree} {here : Occurrence}
    (shown : root.Shows source here) (object : here.node.kind = .object) :
    root.formAt? here.place ≠ some .function := by
  intro function
  obtain ⟨node, found, viewed⟩ := shown
  have form : Form.function = Form.ofType node.type := by
    rcases Tree.formAt?_eq found with list | form
    · exact absurd (list.symm.trans function) (Option.some_ne_none _).symm
    · exact Option.some.inj (function.symm.trans form)
  rcases viewed with same | ⟨-, same⟩
  · rw [same, Tree.toNode, kindOfType_eq, ← form] at object
    cases object
  · rw [same] at object
    cases object

namespace Walk

open ModuleDocs (Step)

variable {site : Site} {moduleId source : Text} {root : Tree} {history steps : List Step}
variable {program : List (Occurrence × Option Construct)} {step : Step}

/-- An object literal, with members of different keys, is documented after some steps. -/
structure DocumentedObject (site : Site) (moduleId source : Text) (root : Tree)
    (history : List Step) (around : Frame) (body : List Step) (frame : Option Frame) : Prop where
  object : around.here.node.kind = .object
  created : Created site moduleId body (some around.here) around.value
  closed : body ++ [.document around.here around.value frame] <+: history
  distinct : ((root.membersAt source around.here.place).filterMap Member.key?).Nodup

section Object

variable {around : Frame} {body : List Step} {frame : Option Frame}
variable (documented : DocumentedObject site moduleId source root history around body frame)

include documented

theorem DocumentedObject.grown : body <+: history :=
  (List.prefix_append _ _).trans documented.closed

theorem DocumentedObject.created_history :
    Created site moduleId history (some around.here) around.value :=
  documented.created.mono documented.grown

theorem DocumentedObject.fresh : Fresh site moduleId
    (body ++ [.document around.here around.value frame]) frame around.value :=
  .literal documented.created rfl

theorem DocumentedObject.undeclared : Undeclared site moduleId root history around.value := by
  rintro steps grown ⟨there, created, function, -⟩
  cases (created.mono grown).unique documented.created_history
  exact absurd (function.symm.trans documented.object) (by decide)

variable (regular : Regular site moduleId source root program history)

include regular

/-- The object is not used before it is documented. -/
theorem DocumentedObject.not_traced {expression : Option Construct} (grown : steps <+: body) :
    ¬ Traced site moduleId steps expression around.value := by
  intro traced
  have after := traced.own_prefix regular documented.fresh documented.closed
    documented.undeclared (grown.trans documented.grown)
  exact ne_of_point (after.trans grown) rfl

/-- No path reaches the object before it is documented. -/
theorem DocumentedObject.unused (grown : steps <+: body) :
    (ModuleDocs.ofSteps site moduleId steps).store.Unused around.value := by
  refine (onlyAt_ofSteps documented.created ?_ ?_ grown).unused
  · intro holder key mem
    obtain ⟨before, expression, point, traced⟩ :=
      regular.exists_traced documented.grown mem fun _ accounted => accounted
    exact documented.not_traced regular ((List.prefix_append _ _).trans point) traced
  · intro function statement mem
    obtain ⟨before, expression, point, traced⟩ :=
      regular.exists_traced documented.grown mem fun _ accounted => accounted
    exact documented.not_traced regular ((List.prefix_append _ _).trans point) traced

theorem DocumentedObject.unreached (grown : steps <+: body) (path : List Text) :
    (ModuleDocs.ofSteps site moduleId steps).store.reach? site.scope path ≠ some around.value := by
  refine (documented.unused regular grown).reach?_ne (fun name bound => ?_) path
  have after := own_prefix_of_lookup? regular documented.fresh documented.closed
    documented.undeclared (grown.trans documented.grown) bound
  exact ne_of_point (after.trans grown) rfl

/-- The object is documented as nothing else before. -/
theorem DocumentedObject.not_documented {there : Occurrence} {outer : Option Frame} :
    ¬ steps ++ [.document there around.value outer] <+: body := by
  intro taken
  have former := (List.prefix_append _ _).trans taken
  rcases regular.accounted.of_point (taken.trans documented.grown) with
    ⟨created, -⟩ | ⟨expression, -, traced⟩ | ⟨before, function, key, rfl⟩
  · obtain rfl := Option.some.inj ((created.mono (former.trans documented.grown)).unique
      documented.created_history)
    obtain ⟨rfl, -⟩ := eq_of_nodup_filterMap regular.once (taken.trans documented.grown)
      documented.closed rfl rfl
    exact ne_of_point taken rfl
  · exact documented.not_traced regular former traced
  · exact documented.created_history.noParameter regular.justified function key
      ((former.trans documented.grown).subset (List.mem_append_right _ List.mem_cons_self))

/-- A property of the object is bound by the member of its key. -/
theorem DocumentedObject.exists_member {key : Text} {value : ValueId}
    (taken : steps ++ [.setProperty around.value key value] <+: body) :
    Created site moduleId steps (some around.here) around.value ∧
      ∃ member ∈ root.membersAt source around.here.place, member.key? = some key ∧
        ∀ there, member.documented? = some there →
          steps ++ [.setProperty around.value key value, .document there value (some around)] <+:
            history := by
  rcases regular.attributed steps _ key value (taken.trans documented.grown) with
    ⟨earlier, path, grown, reached⟩ | ⟨here, member, created, mem, keyed, bound⟩
  · have before := grown.trans ((List.prefix_append _ _).trans taken)
    exact absurd reached (documented.unreached regular before path)
  · have grown := (List.prefix_append _ _).trans (taken.trans documented.grown)
    obtain rfl := Option.some.inj ((created.mono grown).unique documented.created_history)
    exact ⟨created, member, mem, keyed, bound⟩

/-- As a literal, the object is documented once. -/
theorem DocumentedObject.eq_of_document {there : Occurrence} {outer : Option Frame}
    (literal : there.node.kind = .function ∨ there.node.kind = .object)
    (taken : steps ++ [.document there around.value outer] <+: history) : steps = body := by
  have former := (List.prefix_append _ _).trans taken
  rcases regular.orderly.of_point taken with
    ⟨-, atLiteral⟩ | ⟨before, inside, parameter, -, rfl, -⟩
  · obtain rfl := Option.some.inj (((atLiteral literal).mono former).unique
      documented.created_history)
    exact (eq_of_nodup_filterMap regular.once taken documented.closed rfl rfl).1
  · exact absurd (former.subset (List.mem_append_right _ List.mem_cons_self))
      (documented.created_history.noParameter regular.justified _ _)

end Object

/-- A value is there when it is documented. -/
theorem lt_nextId_of_document (regular : Regular site moduleId source root program history)
    {there : Occurrence} {owner : ValueId} {outer : Option Frame}
    (taken : steps ++ [.document there owner outer] <+: history) :
    owner < (ModuleDocs.ofSteps site moduleId steps).store.nextId := by
  obtain ⟨rest, whole⟩ := (List.prefix_append _ _).trans taken
  have justified : Lawful (Justified site moduleId program) steps :=
    (whole ▸ regular.justified).of_append
  rcases regular.orderly.of_point taken with
    ⟨settled, -⟩ | ⟨before, inside, parameter, -, rfl, -⟩
  · cases settled with
    | bound found =>
      exact lt_nextId_of_published justified (ModuleDocs.publish_mem_of_lookup? site moduleId found)
    | literal created => exact created.lt_nextId
    | @new before between type last silent fresh =>
      have created : Created site moduleId steps none owner :=
        ⟨before, type, ⟨between, by simp [last]⟩, fresh⟩
      exact created.lt_nextId
  · exact (created_of_addParameter justified
      (List.mem_append_right _ List.mem_cons_self)).lt_nextId

/-- A member of an object literal has just come to a value of its own, and is bound and documented
next. -/
structure OwnMember (site : Site) (moduleId source : Text) (root : Tree) (around : Frame)
    (body own : List Step) (member : Member) (key : Text) (there : Occurrence) (value : ValueId) :
    Prop where
  mem : member ∈ root.membersAt source around.here.place
  keyed : member.key? = some key
  documented : member.documented? = some there
  fresh : Fresh site moduleId own (some around) value
  bound : own ++ [.setProperty around.value key value] ++ [.document there value (some around)] <+:
    body

section Member

variable {around : Frame} {body own : List Step} {frame : Option Frame} {member : Member}
variable {key : Text} {there : Occurrence} {value : ValueId}
variable (documented : DocumentedObject site moduleId source root history around body frame)
variable (self : OwnMember site moduleId source root around body own member key there value)

include documented self

theorem OwnMember.grown : own ++ [.setProperty around.value key value] ++
    [.document there value (some around)] <+: history :=
  self.bound.trans documented.grown

theorem OwnMember.taken : own ++ [.setProperty around.value key value] <+: history :=
  (List.prefix_append _ _).trans (self.grown documented)

variable (regular : Regular site moduleId source root program history)

include regular

/-- The value of a member does not publish itself, since the member is in an object literal. -/
theorem OwnMember.undeclared : Undeclared site moduleId root history value := by
  rintro steps grown ⟨here, created, -, opened⟩
  have owned := (List.prefix_append _ _).trans (self.taken documented)
  cases self.fresh with
  | literal own last =>
    subst last
    obtain rfl := Option.some.inj ((created.mono grown).unique
      (own.mono ((List.prefix_append _ _).trans owned)))
    obtain ⟨place, same, -, enclosing, -⟩ :=
      regular.placed _ (owned.subset (List.mem_append_right _ List.mem_cons_self))
    obtain ⟨-, -, shown, -⟩ := regular.placed _
      (documented.closed.subset (List.mem_append_right _ List.mem_cons_self))
    exact shown.formAt?_ne_function documented.object (opened _ (same ▸ enclosing))
  | new last made =>
    subst last
    cases (created.mono grown).unique ⟨_, _, owned, made⟩

/-- The value of a member is used by the two steps that bind and document the member. -/
theorem OwnMember.eq_of_traced {expression : Option Construct}
    (traced : Traced site moduleId steps expression value) (taken : steps ++ [step] <+: history) :
    steps = own ∧ step = .setProperty around.value key value ∨
      steps = own ++ [.setProperty around.value key value] ∧
        step = .document there value (some around) := by
  have owned := (List.prefix_append _ _).trans (self.taken documented)
  have former := (List.prefix_append _ _).trans taken
  have pair := self.grown documented
  rw [← List.append_cons] at pair
  rcases traced.follows_or_named regular self.fresh owned
    (self.undeclared documented regular) former with ⟨uses, rfl, all⟩ | ⟨uses, name, all, named⟩
  · refine (point_of_uses pair rfl all taken).imp ?_ ?_
    · exact fun none => ⟨by rw [none.1, List.append_nil], none.2⟩
    · exact fun one => ⟨by rw [one.1], one.2⟩
  · rcases point_of_uses pair rfl all (named.trans former) with ⟨-, same⟩ | ⟨-, same⟩
    · cases same
    · cases same

theorem OwnMember.noParameter : NoParameter history value :=
  Settled.noParameter regular.orderly regular.justified (self.taken documented) rfl
    (regular.orderly.of_point (self.taken documented))

/-- The value of a member is a property of the object only, under the key of the member. -/
theorem OwnMember.onlyAt (grown : steps <+: history) :
    (ModuleDocs.ofSteps site moduleId steps).store.OnlyAt
      (fun holder name => holder = around.value ∧ name = key) value := by
  have owned := (List.prefix_append _ _).trans (self.taken documented)
  obtain ⟨here, created⟩ := self.fresh.exists_created
  refine onlyAt_ofSteps (created.mono owned) ?_ ?_ grown
  · intro holder name mem
    obtain ⟨before, expression, point, traced⟩ :=
      regular.exists_traced (List.prefix_refl _) mem fun _ accounted => accounted
    rcases self.eq_of_traced documented regular traced point with ⟨-, same⟩ | ⟨-, same⟩
    · cases same
      exact ⟨rfl, rfl⟩
    · cases same
  · intro function statement mem
    obtain ⟨before, expression, point, traced⟩ :=
      regular.exists_traced (List.prefix_refl _) mem fun _ accounted => accounted
    rcases self.eq_of_traced documented regular traced point with ⟨-, same⟩ | ⟨-, same⟩
    · cases same
    · cases same

/-- Until the object is documented, the key of the member leads to its value. -/
theorem OwnMember.property? (after : own ++ [.setProperty around.value key value] <+: steps)
    (grown : steps <+: body) :
    (ModuleDocs.ofSteps site moduleId steps).store.property? around.value key = some value := by
  induction steps using List.reverseRecOn with
  | nil => exact absurd (List.prefix_nil.mp after) (by simp)
  | append_singleton steps step ih =>
    have former := (List.prefix_append _ _).trans grown
    have further := grown.trans documented.grown
    rw [ModuleDocs.ofSteps_concat]
    rcases List.prefix_concat_iff.mp after with last | earlier
    · obtain ⟨rfl, same⟩ := List.append_inj' last rfl
      obtain rfl := List.singleton_inj.mp same
      have created := (documented.exists_member regular grown).1
      exact (Store.property?_setProperty _ _ _ _ _ _).trans (if_pos ⟨rfl, rfl, created.lt_nextId⟩)
    · have held := ih earlier former
      have created := (documented.exists_member regular (earlier.trans former)).1.mono
        ((List.prefix_append _ _).trans earlier)
      by_cases binds : ∃ holder name target, step = .setProperty holder name target
      · obtain ⟨holder, name, target, rfl⟩ := binds
        refine (Store.property?_setProperty _ _ _ _ _ _).trans ((if_neg ?_).trans held)
        rintro ⟨rfl, rfl, -⟩
        -- the member of this key has been documented before
        obtain ⟨-, other, mem, keyed, again⟩ := documented.exists_member regular grown
        obtain ⟨first, point⟩ := exists_point_of_mem mem
        obtain ⟨second, place⟩ := exists_point_of_mem self.mem
        obtain ⟨-, rfl⟩ := eq_of_nodup_filterMap documented.distinct point place keyed self.keyed
        have twice := again there self.documented
        rw [List.append_cons] at twice
        have same := (eq_of_nodup_filterMap regular.once twice (self.grown documented) rfl rfl).1
        exact ne_of_point earlier (List.append_inj' same rfl).1
      · have quiet (holder : ValueId) (name : Text) (target : ValueId) :
            step ≠ .setProperty holder name target := fun same => binds ⟨holder, name, target, same⟩
        by_cases documents : ∃ here owner outer, step = .document here owner outer
        · obtain ⟨here, owner, outer, rfl⟩ := documents
          refine ((ModuleDocs.changes_bound site here owner outer _).property?_eq
            (lt_nextId_of_document regular further) created.lt_nextId ?_ key).trans held
          rintro ⟨-, rfl | ⟨-, prototype⟩⟩
          · exact documented.not_documented regular grown
          · exact (documented.unused regular former owner).1 _ prototype
        · exact (ModuleDocs.property?_apply site quiet (fun here owner outer same =>
            documents ⟨here, owner, outer, same⟩) _ _ _).trans held

/-- From the time at which it was evaluated, the value of a member is documented when the member is
bound and when the object is documented. -/
theorem OwnMember.eq_of_documents (after : own <+: steps) (taken : steps ++ [step] <+: history)
    (documents : Documents site moduleId steps step value) :
    steps = own ++ [.setProperty around.value key value] ∨ steps = body := by
  have former := (List.prefix_append _ _).trans taken
  have owned := (List.prefix_append _ _).trans (self.taken documented)
  have only := self.onlyAt documented regular former
  have noParameter := self.noParameter documented regular
  obtain ⟨here, owner, outer, rfl, reached⟩ := documents
  rcases reached with rfl | ⟨comment, literal, -, ⟨name, -, reached⟩ | ⟨-, first⟩⟩
  · rcases regular.accounted.of_point taken with
      ⟨created, -⟩ | ⟨expression, -, traced⟩ | ⟨before, function, name, rfl⟩
    · have again : Fresh site moduleId (steps ++ [.document here value outer]) outer value :=
        .literal created rfl
      have same := self.fresh.eq regular.once again owned taken
      exact absurd rfl (ne_of_point (same ▸ after))
    · rcases self.eq_of_traced documented regular traced taken with ⟨-, same⟩ | ⟨same, -⟩
      · cases same
      · exact .inl same
    · exact absurd (former.subset (List.mem_append_right _ List.mem_cons_self)) (noParameter _ _)
  · rw [Store.documented?_eq, Option.or_eq_some_iff] at reached
    rcases reached with named | ⟨-, property⟩
    · have named := (Option.ite_none_right_eq_some.mp named).2
      have added := ModuleDocs.addParameter_mem_of_parameter? site moduleId named
      exact absurd (former.subset added) (noParameter _ _)
    · obtain ⟨rfl, rfl⟩ := (only owner).1 name property
      exact .inr (documented.eq_of_document regular literal taken)
  · exact absurd (List.mem_of_head? first) (only owner).2

/-- When the object is documented, its body comment reaches the member under its key only. -/
theorem OwnMember.ownKey : OwnKey (ModuleDocs.ofSteps site moduleId body).store around.value
    (around.here.node.kind = .function) key value := by
  have only := self.onlyAt documented regular documented.grown
  have unnamed : decide (around.here.node.kind = .function) = false := by
    rw [documented.object]
    decide
  have bound := (List.prefix_append _ _).trans self.bound
  obtain ⟨here, created⟩ := self.fresh.exists_created
  have property := self.property? documented regular bound (List.prefix_refl _)
  rw [unnamed]
  exact {
    known := (created.mono ((List.prefix_append _ _).trans bound)).lt_nextId
    named := by
      rw [Store.documented?_eq, if_neg Bool.false_ne_true, Option.none_or]
      exact property
    only := fun other reached => by
      rw [Store.documented?_eq, if_neg Bool.false_ne_true, Option.none_or] at reached
      exact ((only around.value).1 other reached).2
    noReturn := fun first => (only around.value).2 (List.mem_of_head? first) }

/-- The value of a member gets the record before the member. -/
theorem OwnMember.doc?_body : (ModuleDocs.ofSteps site moduleId body).store.doc? value =
    ((ModuleDocs.ofSteps site moduleId own).store.doc? value).map
      (·.mergeOption (site.propertyRecord? (ModuleDocs.ofSteps site moduleId
        (own ++ [.setProperty around.value key value])).store there.node)) := by
  let set := Step.setProperty around.value key value
  let first := Step.document there value (some around)
  obtain ⟨creation, created⟩ := self.fresh.exists_created
  have opens : own <+: own ++ [set] := List.prefix_append _ _
  have ends : own ++ [set] <+: own ++ [set] ++ [first] := List.prefix_append _ _
  have atSet : (ModuleDocs.ofSteps site moduleId (own ++ [set])).store.doc? value =
      (ModuleDocs.ofSteps site moduleId own).store.doc? value := by
    refine doc?_eq_of_spared opens created.lt_nextId fun middle step after before documents => ?_
    rcases self.eq_of_documents documented regular after
      (before.trans (self.taken documented)) documents with same | same
    · exact ne_of_point before same.symm
    · exact ne_of_point (before.trans (ends.trans self.bound)) same.symm
  have atFirst : (ModuleDocs.ofSteps site moduleId (own ++ [set] ++ [first])).store.doc? value =
      ((ModuleDocs.ofSteps site moduleId (own ++ [set])).store.doc? value).map
        (·.mergeOption (site.propertyRecord? (ModuleDocs.ofSteps site moduleId
          (own ++ [set])).store there.node)) := by
    have property := Tree.kind_of_mem_membersAt self.mem self.documented
    have done := doc?_document_property site
      (ModuleDocs.ofSteps site moduleId (own ++ [set])).store property value
    rw [← documented.object] at done
    rw [ModuleDocs.ofSteps_concat]
    exact done
  rw [← atSet, ← atFirst]
  refine doc?_eq_of_spared self.bound (created.mono (opens.trans ends)).lt_nextId
    fun middle step after before documents => ?_
  rcases self.eq_of_documents documented regular (opens.trans (ends.trans after))
    (before.trans documented.grown) documents with same | same
  · exact ne_of_point after same
  · exact ne_of_point before same.symm

/-- From then on, the value of a member has also the record under its key in the body comment of the
object. -/
theorem OwnMember.doc?_eq (after : body ++ [.document around.here around.value frame] <+: steps)
    (grown : steps <+: history) :
    (ModuleDocs.ofSteps site moduleId steps).store.doc? value =
      ((ModuleDocs.ofSteps site moduleId body).store.doc? value).map
        (·.mergeOption (site.keyRecord? (ModuleDocs.ofSteps site moduleId body).store
          around.here.node around.value key)) := by
  let second := Step.document around.here around.value frame
  obtain ⟨creation, created⟩ := self.fresh.exists_created
  have opens : own <+: body := by
    have bound := self.bound
    rw [List.append_assoc] at bound
    exact (List.prefix_append _ _).trans bound
  have late : own <+: body ++ [second] := opens.trans (List.prefix_append _ _)
  have other : value ≠ around.value := by
    rintro rfl
    have same := self.fresh.eq regular.once documented.fresh (opens.trans documented.grown)
      documented.closed
    exact ne_of_point (same ▸ opens) rfl
  have atSecond : (ModuleDocs.ofSteps site moduleId (body ++ [second])).store.doc? value =
      ((ModuleDocs.ofSteps site moduleId body).store.doc? value).map
        (·.mergeOption (site.keyRecord? (ModuleDocs.ofSteps site moduleId body).store
          around.here.node around.value key)) := by
    rw [ModuleDocs.ofSteps_concat]
    exact doc?_document_literal (.inr documented.object) (self.ownKey documented regular) other _
  rw [← atSecond]
  refine doc?_eq_of_spared after (created.mono late).lt_nextId
    fun middle step after before documents => ?_
  rcases self.eq_of_documents documented regular (late.trans after) (before.trans grown)
    documents with same | same
  · exact ne_of_point (self.bound.trans ((List.prefix_append _ _).trans after)) same
  · exact ne_of_point after same

end Member

section

variable {around : Frame} {body own : List Step} {frame : Option Frame} {member : Member}
variable (regular : Regular site moduleId source root program history)

include regular

/-- Documenting an object literal documents its value. -/
theorem documentedObject_of_closed (object : around.here.node.kind = .object)
    (created : Created site moduleId history (some around.here) around.value)
    (closed : body ++ [.document around.here around.value frame] <+: history)
    (distinct : ((root.membersAt source around.here.place).filterMap Member.key?).Nodup) :
    DocumentedObject site moduleId source root history around body frame where
  object := object
  created := by
    rcases regular.orderly.of_point closed with
      ⟨-, atLiteral⟩ | ⟨before, inside, parameter, -, rfl, -⟩
    · exact atLiteral (.inr object)
    · have mem := ((List.prefix_append _ _).trans closed).subset
        (List.mem_append_right before List.mem_cons_self)
      exact absurd mem (created.noParameter regular.justified _ _)
  closed := closed
  distinct := distinct

/-- All members have been bound when an object literal is documented. -/
theorem DocumentedObject.boundMember
    (documented : DocumentedObject site moduleId source root history around body frame)
    (mem : member ∈ root.membersAt source around.here.place) :
    BoundMember site moduleId body around member := by
  rcases regular.accounted.of_point documented.closed with
    ⟨-, members⟩ | ⟨expression, -, traced⟩ | ⟨before, function, name, rfl⟩
  · exact members documented.object member mem
  · exact absurd traced (documented.not_traced regular (List.prefix_refl _))
  · exact absurd (documented.grown.subset (List.mem_append_right _ List.mem_cons_self))
      (documented.created_history.noParameter regular.justified _ _)

end

/-- What was said of the value of a member when it was evaluated becomes `final` by two steps of a
walk: when the member is bound, by the comment right before it, and when the object literal is
documented, by its body comment, each time with its type as it is resolved at that step. -/
structure GathersComments (site : Site) (moduleId : Text) (history : List Step) (around : Frame)
    (frame : Option Frame) (key : Text) (there : Occurrence) (value : ValueId)
    (own body : List Step) (start final : ValueDoc) : Prop where
  bound : own ++ [.setProperty around.value key value] ++ [.document there value (some around)] <+:
    body
  property : (ModuleDocs.ofSteps site moduleId body).store.property? around.value key = some value
  started : (ModuleDocs.ofSteps site moduleId own).store.doc? value = some start
  gathered : final = (start.mergeOption
    (site.propertyRecord? (ModuleDocs.ofSteps site moduleId
      (own ++ [.setProperty around.value key value])).store there.node)).mergeOption
        (site.keyRecord? (ModuleDocs.ofSteps site moduleId body).store around.here.node around.value
          key)
  doc : ∀ steps, body ++ [.document around.here around.value frame] <+: steps → steps <+: history →
    (ModuleDocs.ofSteps site moduleId steps).store.doc? value = some final
  only : ∀ steps step, own <+: steps → steps ++ [step] <+: history →
    Documents site moduleId steps step value →
      steps = own ++ [.setProperty around.value key value] ∨ steps = body

section

variable {around : Frame} {body own : List Step} {frame : Option Frame} {member : Member}
variable {key : Text} {there : Occurrence} {value : ValueId} {start final : ValueDoc}

/-- A member with a value of its own gathers the comments that document it. -/
theorem OwnMember.gathers
    (self : OwnMember site moduleId source root around body own member key there value)
    (documented : DocumentedObject site moduleId source root history around body frame)
    (regular : Regular site moduleId source root program history)
    (started : (ModuleDocs.ofSteps site moduleId own).store.doc? value = some start) :
    GathersComments site moduleId history around frame key there value own body start
      ((start.mergeOption (site.propertyRecord? (ModuleDocs.ofSteps site moduleId
        (own ++ [.setProperty around.value key value])).store there.node)).mergeOption
          (site.keyRecord? (ModuleDocs.ofSteps site moduleId body).store around.here.node
            around.value key)) where
  bound := self.bound
  property := self.property? documented regular ((List.prefix_append _ _).trans self.bound)
    (List.prefix_refl _)
  started := started
  gathered := rfl
  doc steps after grown := by
    rw [self.doc?_eq documented regular after grown, self.doc?_body documented regular, started]
    rfl
  only _ _ := self.eq_of_documents documented regular

/-- The comments of a member give their tags in turn, each in its own reading. -/
theorem GathersComments.tags (gathers :
      GathersComments site moduleId history around frame key there value own body start final)
    (keyed : there.node.keyName = some key) :
    final.tags = start.tags ++ ((site.propertyToken? there.node).elim [] (tagsFor key (some key)) ++
      (site.bodyToken? around.here.node).elim [] (tagsFor key none)) := by
  rw [gathers.gathered, tags_mergeOption, tags_mergeOption, tags_propertyRecord? keyed,
    tags_keyRecord?, List.append_assoc]

end

/-- What has just been made is not documented. -/
theorem Evaluated.doc?_of_plain {expression : Option Construct} {frame : Option Frame}
    {value : ValueId} (evaluated : Evaluated site moduleId steps frame expression value)
    (unnamed : ∀ name parts, expression ≠ some (.identifier name parts))
    (plain : expression.bind Construct.literal? = none) :
    (ModuleDocs.ofSteps site moduleId steps).store.doc? value = some {} := by
  cases evaluated with
  | name bound => exact absurd rfl (unnamed _ _)
  | literal spelled created last => exact absurd (spelled.symm.trans plain) (Option.some_ne_none _)
  | new last made =>
    rw [last, ModuleDocs.ofSteps_concat, ← made]
    exact congrArg (Option.map _) ((Store.value?_add _ _ _).trans (if_pos rfl))

/-- The members of an object literal have different keys. Then each member whose value is its own
is documented by exactly two steps of a walk from the time at which it was evaluated: by the comment
right before it, and then by the body comment of the literal. Its tags grow by those that the two
comments give for the key, one after the other. If both are one token, its tags are added twice. -/
theorem members_gather_comments (moduleId source : Text) (tree : Tree) {before body : List Step}
    {type : Text} {here : Occurrence} {frame : Option Frame}
    (evaluated : before ++ [.create type (some here)] <+: (ofSource moduleId source tree).history)
    (object : here.node.kind = .object)
    (closed : body ++ [.document here
      (ModuleDocs.ofSteps (siteOf source tree) moduleId before).store.nextId frame] <+:
        (ofSource moduleId source tree).history)
    (distinct : ((tree.membersAt source here.place).filterMap Member.key?).Nodup) :
    let site := siteOf source tree
    let history := (ofSource moduleId source tree).history
    let around : Frame := ⟨here, (ModuleDocs.ofSteps site moduleId before).store.nextId⟩
    ModuleDocs.ofSource moduleId source tree = ModuleDocs.ofSteps site moduleId history ∧
      ∀ member ∈ tree.membersAt source here.place, ∀ key there, member.key? = some key →
        member.documented? = some there →
        (∀ name parts, member.expression ≠ some (.identifier name parts)) →
        ∃ own value start final,
          Evaluated site moduleId own (some around) member.expression value ∧
          GathersComments site moduleId history around frame key there value own body start final ∧
          (member.expression.bind Construct.literal? = none → start = {}) ∧
          final.tags = start.tags ++
            ((site.propertyToken? there.node).elim [] (tagsFor key (some key)) ++
              (site.bodyToken? here.node).elim [] (tagsFor key none)) ∧
          (Comment.ValueKey.ofWord? key = none → final.tags = start.tags ++
            (site.memberComments here.node there.node).flatMap (tagsFor key none)) := by
  intro site history around
  have regular := regular_ofSource moduleId source tree
  have documented : DocumentedObject site moduleId source tree history around body frame :=
    documentedObject_of_closed regular object ⟨before, type, evaluated, rfl⟩ closed distinct
  refine ⟨(sound_ofSource moduleId source tree).docs, ?_⟩
  intro member mem key there keyed found unnamed
  obtain ⟨named, nonempty⟩ := Member.keyName_of_documented? keyed found
  obtain ⟨own, value, bound, come⟩ := documented.boundMember regular mem key there keyed found
  rw [List.append_cons] at bound
  have fresh : Fresh site moduleId own (some around) value := by
    refine come.bound_or_fresh.resolve_left ?_
    rintro ⟨name, parts, same, -⟩
    exact unnamed name parts same
  have self : OwnMember site moduleId source tree around body own member key there value :=
    ⟨mem, keyed, found, fresh, bound⟩
  obtain ⟨creation, created⟩ := fresh.exists_created
  obtain ⟨start, started⟩ := Store.exists_doc?_of_lt _ created.lt_nextId
  have gathers := self.gathers documented regular started
  refine ⟨own, value, start, _, come, gathers, fun plain => ?_, gathers.tags named, fun other => ?_⟩
  · exact Option.some.inj (started.symm.trans (come.doc?_of_plain unnamed plain))
  · rw [gathers.tags named, tagsFor_memberComments nonempty other]

/-- An object literal with two members. The comment after its brace has a key for both, and it is
also the comment right before the first member. The second member has a comment of its own. -/
def keyedSource : Text :=
  ["var o = \x7b", "// a: [x] Number", "// b: [u] String", "a: 1,", "// b: [v] Text", "b: 2",
    "\x7d;"].flatMap fun line => line.toList ++ ['\n']

def keyedFirst : Tree :=
  part "pair" 44 48 none [
    part "property_identifier" 44 45 (some "key") [],
    token ":" 45,
    part "number" 47 48 (some "value") []]

def keyedSecond : Tree :=
  part "pair" 65 69 none [
    part "property_identifier" 65 66 (some "key") [],
    token ":" 66,
    part "number" 68 69 (some "value") []]

def keyedTree : Tree :=
  part "program" 0 73 none [
    part "variable_declaration" 0 72 none [
      token "var" 0,
      part "variable_declarator" 4 71 none [
        part "identifier" 4 5 (some "name") [],
        token "=" 6,
        part "object" 8 71 (some "value") [
          token "\x7b" 8,
          part "comment" 10 26 none [],
          part "comment" 27 43 none [],
          keyedFirst,
          token "," 48,
          part "comment" 50 64 none [],
          keyedSecond,
          token "\x7d" 70]],
      token ";" 71]]

def keyedObject : Occurrence :=
  ⟨[2, 1, 0], ⟨.object, ⟨8, 71⟩, none, none⟩⟩

def keyedSteps : List Step :=
  (ofSource "app".toList keyedSource keyedTree).history

theorem siteOf_keyed : siteOf keyedSource keyedTree =
    ⟨⟨keyedSource, tokensOf keyedSource keyedTree⟩, 0⟩ := by
  rw [siteOf, streamOf_eq_of_sorted (by decide +kernel)]

theorem membersAt_keyed : keyedTree.membersAt keyedSource keyedObject.place =
    [⟨[3, 2, 1, 0], keyedFirst⟩, ⟨[6, 2, 1, 0], keyedSecond⟩].map (Located.member keyedSource) :=
  rfl

theorem unnamed_keyed : ∀ member ∈ keyedTree.membersAt keyedSource keyedObject.place,
    ∀ name parts, member.expression ≠ some (.identifier name parts) := by
  rw [membersAt_keyed]
  rintro member mem name parts same
  rcases List.mem_pair.mp mem with rfl | rfl
  · exact nomatch same
  · exact nomatch same

theorem evaluated_keyed :
    ([] : List Step) ++ [.create ModelType.object (some keyedObject)] <+: keyedSteps := by
  simp only [keyedSteps, ofSource_eq, siteOf_keyed]
  decide +kernel

theorem closed_keyed : keyedSteps.take 7 ++ [.document keyedObject 0 none] <+: keyedSteps := by
  simp only [keyedSteps, ofSource_eq, siteOf_keyed]
  decide +kernel

/-- The first member gets the tag of the one comment that both look-ups find twice. The second one
gets a tag from each of its two comments. -/
theorem members_gather_comments_keyed :
    ([] : List Step) ++ [.create ModelType.object (some keyedObject)] <+: keyedSteps ∧
      keyedObject.node.kind = .object ∧
      keyedSteps.take 7 ++ [.document keyedObject 0 none] <+: keyedSteps ∧
      ((keyedTree.membersAt keyedSource keyedObject.place).filterMap Member.key?).Nodup ∧
      (∀ member ∈ keyedTree.membersAt keyedSource keyedObject.place, ∀ key there,
        member.key? = some key → member.documented? = some there →
        (∀ name parts, member.expression ≠ some (.identifier name parts)) ∧
          ∃ own value start final, GathersComments (siteOf keyedSource keyedTree) "app".toList
            keyedSteps ⟨keyedObject, 0⟩ none key there value own (keyedSteps.take 7) start final) ∧
      [1, 2].map (fun member =>
        ((ModuleDocs.ofSource "app".toList keyedSource keyedTree).store.doc? member).map (·.tags)) =
          [some ["x".toList, "x".toList], some ["v".toList, "u".toList]] := by
  have distinct :
      ((keyedTree.membersAt keyedSource keyedObject.place).filterMap Member.key?).Nodup := by
    decide +kernel
  have gathers := members_gather_comments "app".toList keyedSource keyedTree evaluated_keyed rfl
    closed_keyed distinct
  refine ⟨evaluated_keyed, rfl, closed_keyed, distinct, ?_, ?_⟩
  · intro member mem key there keyed documented
    have unnamed := unnamed_keyed member mem
    obtain ⟨own, value, start, final, -, gathered, -⟩ :=
      gathers.2 member mem key there keyed documented unnamed
    exact ⟨unnamed, own, value, start, final, gathered⟩
  · rw [ModuleDocs.ofSource, ofSource_eq, siteOf_keyed]
    decide +kernel

/-- Each comment of a member gives its tags to the member once, if the members of an object literal
have different keys. -/
def TagsOncePerComment (moduleId source : Text) (tree : Tree) : Prop :=
  ∀ before body own type here object frame member key there value start final,
    before ++ [.create type (some here)] <+: (ofSource moduleId source tree).history →
    (ModuleDocs.ofSteps (siteOf source tree) moduleId before).store.nextId = object →
    here.node.kind = .object →
    body ++ [.document here object frame] <+: (ofSource moduleId source tree).history →
    ((tree.membersAt source here.place).filterMap Member.key?).Nodup →
    member ∈ tree.membersAt source here.place → member.key? = some key →
    member.documented? = some there →
    (∀ name parts, member.expression ≠ some (.identifier name parts)) →
    Evaluated (siteOf source tree) moduleId own (some ⟨here, object⟩) member.expression value →
    own ++ [.setProperty object key value] <+: body →
    (ModuleDocs.ofSteps (siteOf source tree) moduleId own).store.doc? value = some start →
    (ModuleDocs.ofSteps (siteOf source tree) moduleId
      (body ++ [.document here object frame])).store.doc? value = some final →
    final.tags = start.tags ++
      ((siteOf source tree).memberComments here.node there.node).eraseDups.flatMap
        (tagsFor key none)

/-- A comment that is both right after the brace and right before the first member gives its tags to
this member twice. -/
theorem not_tagsOncePerComment_keyed :
    ¬ TagsOncePerComment "app".toList keyedSource keyedTree := by
  intro once
  let first : Located := ⟨[3, 2, 1, 0], keyedFirst⟩
  have mem : first.member keyedSource ∈ keyedTree.membersAt keyedSource keyedObject.place := by
    rw [membersAt_keyed]
    exact List.mem_cons_self
  have bound : keyedSteps.take 2 ++ [.setProperty 0 "a".toList 1] <+: keyedSteps.take 7 := by
    simp only [keyedSteps, ofSource_eq, siteOf_keyed]
    decide +kernel
  have made : keyedSteps.take 2 = [.create ModelType.object (some keyedObject)] ++
      [.create "number".toList none] := by
    simp only [keyedSteps, ofSource_eq, siteOf_keyed]
    decide +kernel
  have come : Evaluated (siteOf keyedSource keyedTree) "app".toList (keyedSteps.take 2)
      (some ⟨keyedObject, 0⟩) (some (.other "number".toList [])) 1 := by
    refine .new made rfl ?_ ?_
    · rintro _ ⟨rfl⟩
      rfl
    · rintro _ _ ⟨⟩
  have start : (ModuleDocs.ofSteps (siteOf keyedSource keyedTree) "app".toList
      (keyedSteps.take 2)).store.doc? 1 = some {} := by
    rw [made]
    rfl
  have final : (ModuleDocs.ofSteps (siteOf keyedSource keyedTree) "app".toList
      (keyedSteps.take 7 ++ [.document keyedObject 0 none])).store.doc? 1 =
        some { type := .text "Number".toList, tags := ["x".toList, "x".toList] } := by
    simp only [keyedSteps, ofSource_eq, siteOf_keyed]
    decide +kernel
  have tags := once [] _ _ _ keyedObject 0 none (first.member keyedSource) "a".toList
    (first.occurrence keyedSource) 1 _ _ evaluated_keyed rfl rfl closed_keyed (by decide +kernel)
    mem (by decide +kernel) rfl (unnamed_keyed _ mem) come bound start final
  rw [siteOf_keyed] at tags
  exact absurd tags (by decide +kernel)

end Walk

end CommentDocs
