import CommentDocs.Proofs.Binding.ParameterComment
import CommentDocs.Proofs.Binding.Uses
import CommentDocs.Proofs.Module.Closing
import CommentDocs.Proofs.Module.Links
import CommentDocs.Proofs.Module.Once
import CommentDocs.Proofs.Syntax.Nearest

/-!
# What documents a parameter in a whole walk

A parameter is documented twice: by the block comment right before it when it is added, and by the
body comment of its function when the function is closed. Nothing else in a walk documents it. No
name is bound to it, it becomes no property and no return, and it is a parameter of its function
under its own name only, so no other comment leads to it.

The laws of justified steps and of orderly steps come together here. Both say of a value what it is
at the time of a step. A parameter is made and added in two steps without any between them, so what
is settled at some time is no parameter that is added later.
-/

namespace CommentDocs

open Binding Syntax

namespace Walk

open ModuleDocs (Step)

variable {site : Site} {moduleId source : Text} {root : Tree}
variable {program : List (Occurrence × Option Construct)} {history steps : List Step} {step : Step}

/-- A value is a property only where a step binds it, unless it is given as a return. -/
theorem onlyAt_ofSteps {places : ValueId → Text → Prop} {here : Option Occurrence} {value : ValueId}
    (created : Created site moduleId history here value)
    (bound : ∀ holder key, Step.setProperty holder key value ∈ history → places holder key)
    (returned : ∀ function statement, Step.appendReturn function value statement ∉ history)
    (taken : steps <+: history) :
    (ModuleDocs.ofSteps site moduleId steps).store.OnlyAt places value := by
  induction steps using List.reverseRecOn with
  | nil => exact fun _ => ⟨fun _ found => (nomatch found), fun given => nomatch given⟩
  | append_singleton steps step ih =>
    have only := ih ((List.prefix_append _ _).trans taken)
    have mem : step ∈ history := taken.subset (List.mem_append_right _ List.mem_cons_self)
    rw [ModuleDocs.ofSteps_concat]
    cases step with
    | create type there => exact only.add rfl rfl
    | setProperty holder name target =>
      refine only.setProperty ?_
      rintro rfl
      exact bound holder name mem
    | appendReturn holder target statement =>
      refine only.appendReturn ?_ holder
      rintro rfl
      exact returned holder statement mem
    | document there target frame =>
      have apart := created.apart taken fun _ _ => Step.noConfusion
      rw [ModuleDocs.ofSteps_concat] at apart
      exact (ModuleDocs.changes_bound site there target frame _).onlyAt only apart
    | publish name target => exact only
    | setExports target => exact only
    | _ =>
      exact only.congr (fun _ name => Store.property?_update _ _ _ name fun _ => rfl)
        fun _ => Store.returnsOf_update _ _ _ fun _ => rfl

section Lawful

variable (orderly : Lawful (Orderly site moduleId source root) history)
variable {function parameter : ValueId} {key : Text} {before : List Step}

include orderly

/-- A parameter is made right before it is added. -/
theorem made_of_addParameter
    (added : before ++ [.addParameter function key parameter] <+: history) :
    ∃ earlier, before = earlier ++ [.create ModelType.any none] ∧
      (ModuleDocs.ofSteps site moduleId earlier).store.nextId = parameter := by
  obtain ⟨⟨earlier, rfl, fresh⟩, -⟩ := orderly.of_point added
  exact ⟨earlier, rfl, fresh⟩

/-- A parameter is added once. -/
theorem addParameter_unique
    (added : before ++ [.addParameter function key parameter] <+: history)
    {after : List Step} {other : ValueId} {name : Text}
    (again : after ++ [.addParameter other name parameter] <+: history) :
    before = after ∧ function = other ∧ key = name := by
  obtain ⟨earlier, rfl, fresh⟩ := made_of_addParameter orderly added
  obtain ⟨former, rfl, same⟩ := made_of_addParameter orderly again
  obtain rfl := eq_of_create ((List.prefix_append _ _).trans added)
    ((List.prefix_append _ _).trans again) (fresh.trans same.symm)
  have step := eq_of_point added again
  simp only [Step.addParameter.injEq] at step
  exact ⟨rfl, step.1, step.2.1⟩

/-- The names under which parameters are added to a function are its names, in order. -/
theorem names_prefix {here : Occurrence}
    (created : Created site moduleId history (some here) function) (taken : steps <+: history) :
    steps.filterMap (Step.parameterName? function) <+:
      (root.parametersAt source here.place).map (·.name) := by
  induction steps using List.reverseRecOn with
  | nil => exact List.nil_prefix
  | append_singleton steps step ih =>
    have grown := (List.prefix_append _ _).trans taken
    cases named : step.parameterName? function with
    | none =>
      rw [List.filterMap_append, List.filterMap_cons_none named]
      simpa using ih grown
    | some key =>
      rw [List.filterMap_append, List.filterMap_cons_some named]
      cases step with
      | addParameter owner name parameter =>
        obtain ⟨rfl, ⟨rfl⟩⟩ := Option.ite_none_right_eq_some.mp named
        obtain ⟨-, there, known, next⟩ := orderly.of_point taken
        cases (known.mono grown).unique created
        exact next
      | _ => cases named

variable (justified : Lawful (Justified site moduleId program) history)

include justified

/-- A settled value is no parameter, not even one that is added later. -/
theorem Settled.noParameter (taken : steps ++ [step] <+: history) (quiet : step.isQuiet)
    {value : ValueId} (settled : Settled site moduleId steps value) :
    NoParameter history value := by
  have grown : steps <+: history := (List.prefix_append _ _).trans taken
  cases settled with
  | bound found =>
    have published := ModuleDocs.publish_mem_of_lookup? site moduleId found
    exact noParameter_of_published justified (grown.subset published)
  | literal created => exact (created.mono grown).noParameter justified
  | @new before between type last silent fresh =>
    intro function key mem
    obtain ⟨earlier, added⟩ := exists_point_of_mem mem
    obtain ⟨former, rfl, same⟩ := made_of_addParameter orderly added
    -- the step after the one that made the value is quiet, and would add the parameter
    obtain ⟨next, more, later⟩ := List.exists_cons_of_ne_nil
      (List.append_ne_nil_of_right_ne_nil between (List.cons_ne_nil step []))
    have follows : before ++ [.create type none] ++ [next] <+: history :=
      List.IsPrefix.trans ⟨more, by simp [last, later]⟩ taken
    have calm : next.isQuiet := by
      have mem : next ∈ between ++ [step] := later ▸ List.mem_cons_self
      rcases List.mem_append.mp mem with old | new
      · exact silent next old
      · exact List.mem_singleton.mp new ▸ quiet
    have made := (List.prefix_append _ _).trans follows
    have adds := (List.prefix_append _ _).trans added
    obtain rfl := eq_of_create made adds (fresh.trans same.symm)
    rw [eq_of_point made adds] at follows
    rw [eq_of_point follows added] at calm
    cases calm

/-- A parameter is neither a property nor a return, at any time. -/
theorem unused_ofSteps (added : before ++ [.addParameter function key parameter] <+: history)
    (taken : steps <+: history) :
    (ModuleDocs.ofSteps site moduleId steps).store.Unused parameter := by
  have mem : Step.addParameter function key parameter ∈ history := added.subset (by simp)
  have other {step : Step} (quiet : step.isQuiet) (used : step ∈ history)
      (settled : ∀ steps, Orderly site moduleId source root steps step →
        Settled site moduleId steps parameter) : False := by
    obtain ⟨before, taken⟩ := exists_point_of_mem used
    exact (settled before (orderly.of_point taken)).noParameter orderly justified taken quiet
      function key mem
  refine (onlyAt_ofSteps (created_of_addParameter justified mem) ?_ ?_ taken).unused
  · exact fun holder name bound => other rfl bound fun _ settled => settled
  · exact fun holder statement given => other rfl given fun _ settled => settled

end Lawful

/-- A function whose parameters have different names. -/
structure DistinctParameters (site : Site) (moduleId source : Text) (root : Tree)
    (history : List Step) (here : Occurrence) (function : ValueId) : Prop where
  created : Created site moduleId history (some here) function
  names : ((root.parametersAt source here.place).map (·.name)).Nodup

section Distinct

variable (orderly : Lawful (Orderly site moduleId source root) history)
variable {here : Occurrence} {function parameter : ValueId} {key : Text} {before : List Step}
variable (distinct : DistinctParameters site moduleId source root history here function)

include orderly distinct

/-- A name that was taken by a parameter is not given to another one. -/
theorem not_addParameter_again
    (later : before ++ [.addParameter function key parameter] <+: steps) {other : ValueId} :
    ¬ steps ++ [.addParameter function key other] <+: history := by
  intro again
  have names := names_prefix orderly distinct.created again
  obtain ⟨between, rfl⟩ := later
  have once := distinct.names.sublist names.sublist
  simp [List.filterMap_append, Step.parameterName?, List.nodup_append] at once

/-- A function keeps its parameters. -/
theorem parameter?_ofSteps
    (added : before ++ [.addParameter function key parameter] <+: steps)
    (taken : steps <+: history) :
    (ModuleDocs.ofSteps site moduleId steps).store.parameter? function key = some parameter := by
  induction steps using List.reverseRecOn with
  | nil => simp at added
  | append_singleton steps step ih =>
    rw [ModuleDocs.ofSteps_concat]
    rcases List.prefix_concat_iff.mp added with last | earlier
    · obtain ⟨rfl, same⟩ := List.append_inj' last rfl
      obtain rfl := List.singleton_inj.mp same
      obtain ⟨-, there, created, -⟩ := orderly.of_point taken
      exact (Store.parameter?_addParameter _ _ _ _ _ _).trans
        (if_pos ⟨rfl, rfl, created.lt_nextId⟩)
    · have held := ih earlier ((List.prefix_append _ _).trans taken)
      by_cases adds : ∃ holder name target, step = .addParameter holder name target
      · obtain ⟨holder, name, target, rfl⟩ := adds
        refine (Store.parameter?_addParameter _ _ _ _ _ _).trans ((if_neg ?_).trans held)
        rintro ⟨rfl, rfl, -⟩
        exact not_addParameter_again orderly distinct earlier taken
      · exact (ModuleDocs.parameter?_apply site
          (fun holder name target same => adds ⟨holder, name, target, same⟩) _ _ _).trans held

variable (justified : Lawful (Justified site moduleId program) history)

include justified

/-- A parameter is known by its own name only, once it has been added. -/
theorem ownParameter_ofSteps
    (added : before ++ [.addParameter function key parameter] <+: steps)
    (taken : steps <+: history) :
    OwnParameter (ModuleDocs.ofSteps site moduleId steps).store function key parameter where
  known := by
    obtain ⟨earlier, rfl, fresh⟩ := made_of_addParameter orderly (added.trans taken)
    have created : Created site moduleId steps none parameter :=
      ⟨earlier, _, (List.prefix_append _ _).trans added, fresh⟩
    exact created.lt_nextId
  named := parameter?_ofSteps orderly distinct added taken
  only other reached := by
    rw [Store.documented?_eq, if_pos rfl, Option.or_eq_some_iff] at reached
    rcases reached with named | ⟨-, property⟩
    · have mem := ModuleDocs.addParameter_mem_of_parameter? site moduleId named
      obtain ⟨again, adds⟩ := exists_point_of_mem mem
      exact (addParameter_unique orderly (adds.trans taken) (added.trans taken)).2.2
    · exact absurd property
        ((unused_ofSteps orderly justified (added.trans taken) taken function).1 other)
  noReturn first := (unused_ofSteps orderly justified (added.trans taken) taken function).2
    (List.mem_of_head? first)

end Distinct

section

variable (site : Site) (moduleId : Text)

/-- A step documents a value: it is the value of the node, or the body comment of the node reaches
it. -/
def Documents (steps : List Step) (step : Step) (id : ValueId) : Prop :=
  ∃ here owner frame, step = .document here owner frame ∧
    (id = owner ∨ site.Reaches (ModuleDocs.ofSteps site moduleId steps).store here.node owner id)

/-- A parameter is documented by two steps of a walk, first by the block comment before it and then
by the body comment of its function, each time with its type as it is resolved at that step. No
other step documents it or changes its documentation. -/
structure DocumentedTwice (history : List Step) (around : Frame) (parameter : Parameter)
    (id : ValueId) (inline body : List Step) : Prop where
  first : inline ++ [.document parameter.occurrence id (some around)] <+: body
  second : ∃ frame, body ++ [.document around.here around.value frame] <+: history
  doc : (ModuleDocs.ofSteps site moduleId history).store.doc? id =
    some ((({} : ValueDoc).mergeOption
      (site.inlineRecord? (ModuleDocs.ofSteps site moduleId inline).store
        parameter.occurrence.node)).mergeOption
      (site.bodyRecord? (ModuleDocs.ofSteps site moduleId body).store around.here.node around.value
        parameter.name))
  only : ∀ steps step, steps ++ [step] <+: history → Documents site moduleId steps step id →
    steps = inline ∨ steps = body
  changed : ∀ steps step, steps ++ [step] <+: history →
    id < (ModuleDocs.ofSteps site moduleId steps).store.nextId →
    (ModuleDocs.ofSteps site moduleId (steps ++ [step])).store.doc? id ≠
      (ModuleDocs.ofSteps site moduleId steps).store.doc? id → steps = inline ∨ steps = body

end

/-- A step that changes the documentation of a value documents it. -/
theorem documents_of_changed {id : ValueId}
    (known : id < (ModuleDocs.ofSteps site moduleId steps).store.nextId)
    (changed : (ModuleDocs.ofSteps site moduleId (steps ++ [step])).store.doc? id ≠
      (ModuleDocs.ofSteps site moduleId steps).store.doc? id) :
    Documents site moduleId steps step id := by
  rw [ModuleDocs.ofSteps_concat] at changed
  exact ModuleDocs.doc?_apply site known changed

/-- What no step documents stays as it is. -/
theorem doc?_eq_of_spared {id : ValueId} {later : List Step} (grown : steps <+: later)
    (known : id < (ModuleDocs.ofSteps site moduleId steps).store.nextId)
    (spared : ∀ middle step, steps <+: middle → middle ++ [step] <+: later →
      ¬ Documents site moduleId middle step id) :
    (ModuleDocs.ofSteps site moduleId later).store.doc? id =
      (ModuleDocs.ofSteps site moduleId steps).store.doc? id := by
  induction later using List.reverseRecOn with
  | nil => rw [List.prefix_nil.mp grown]
  | append_singleton later step ih =>
    rcases List.prefix_concat_iff.mp grown with rfl | earlier
    · rfl
    · have kept := ih earlier fun middle next first last =>
        spared middle next first (last.trans (List.prefix_append _ _))
      refine Eq.trans ?_ kept
      by_contra changed
      refine spared later step earlier (List.prefix_refl _) (documents_of_changed ?_ changed)
      exact Nat.lt_of_lt_of_le known (ModuleDocs.nextId_le_of_prefix site moduleId earlier)

section

variable {around : Frame} {parameter : Parameter} {id : ValueId} {before body : List Step}
variable {frame : Option Frame}

/-- Only two steps document a parameter: the one right after it is added, and the one that closes
its function. -/
theorem eq_of_documents (justified : Lawful (Justified site moduleId program) history)
    (orderly : Lawful (Orderly site moduleId source root) history)
    (once : (history.filterMap Step.documented?).Nodup)
    (created : Created site moduleId history (some around.here) around.value)
    (added : before ++ [.addParameter around.value parameter.name id] <+: history)
    (closed : body ++ [.document around.here around.value frame] <+: history)
    (taken : steps ++ [step] <+: history) (documents : Documents site moduleId steps step id) :
    steps = before ++ [.addParameter around.value parameter.name id] ∨ steps = body := by
  have grown := (List.prefix_append _ _).trans taken
  have unused := unused_ofSteps orderly justified added grown
  obtain ⟨there, owner, outer, rfl, reached⟩ := documents
  have ordered := orderly.of_point taken
  rcases reached with rfl | ⟨comment, literal, -, ⟨name, -, reached⟩ | ⟨-, first⟩⟩
  · rcases ordered with ⟨settled, -⟩ | ⟨former, frame, other, -, last, -⟩
    · have mem := added.subset (List.mem_append_right before List.mem_cons_self)
      exact absurd mem (settled.noParameter orderly justified taken rfl _ _)
    · subst last
      obtain ⟨rfl, same, named⟩ := addParameter_unique orderly added grown
      exact .inl (by rw [same, named])
  · rw [Store.documented?_eq, Option.or_eq_some_iff] at reached
    rcases reached with named | ⟨-, property⟩
    · have named := (Option.ite_none_right_eq_some.mp named).2
      obtain ⟨again, adds⟩ := exists_point_of_mem
        (ModuleDocs.addParameter_mem_of_parameter? site moduleId named)
      obtain ⟨-, rfl, -⟩ := addParameter_unique orderly added (adds.trans grown)
      rcases ordered with ⟨-, atLiteral⟩ | ⟨former, outer, other, -, last, -⟩
      · obtain same : there = around.here :=
          Option.some.inj (((atLiteral literal).mono grown).unique created)
        exact .inr (eq_of_nodup_filterMap once taken closed rfl (by rw [same]; rfl)).1
      · have mem := grown.subset (last ▸ List.mem_append_right former List.mem_cons_self)
        exact absurd mem (created.noParameter justified _ _)
    · exact absurd property ((unused owner).1 name)
  · exact absurd (List.mem_of_head? first) (unused owner).2

/-- A parameter that has just been added has no documentation. -/
theorem doc?_of_addParameter (orderly : Lawful (Orderly site moduleId source root) history)
    {function : ValueId} {key : Text}
    (added : before ++ [.addParameter function key id] <+: history) :
    (ModuleDocs.ofSteps site moduleId (before ++ [.addParameter function key id])).store.doc? id =
      some {} := by
  obtain ⟨earlier, rfl, rfl⟩ := made_of_addParameter orderly added
  simp only [ModuleDocs.ofSteps_concat, ModuleDocs.apply, ModuleDocs.mapStore]
  rw [Store.doc?_addParameter, Store.doc?, Store.value?_add, if_pos rfl]
  rfl

/-- The documentation of a parameter comes from the two steps that document it. -/
theorem documentedTwice_of_closed (justified : Lawful (Justified site moduleId program) history)
    (orderly : Lawful (Orderly site moduleId source root) history)
    (once : (history.filterMap Step.documented?).Nodup)
    (distinct : DistinctParameters site moduleId source root history around.here around.value)
    (function : around.here.node.kind = .function)
    (identifier : parameter.occurrence.node.kind = .identifier)
    (added : before ++ [.addParameter around.value parameter.name id] ++
      [.document parameter.occurrence id (some around)] <+: body)
    (closed : body ++ [.document around.here around.value frame] <+: history) :
    DocumentedTwice site moduleId history around parameter id
      (before ++ [.addParameter around.value parameter.name id]) body := by
  let inline := before ++ [.addParameter around.value parameter.name id]
  let first := Step.document parameter.occurrence id (some around)
  let second := Step.document around.here around.value frame
  have grown : body <+: history := (List.prefix_append _ _).trans closed
  have adds : inline <+: body := (List.prefix_append _ _).trans added
  have only (steps : List Step) (step : Step) (taken : steps ++ [step] <+: history)
      (documents : Documents site moduleId steps step id) : steps = inline ∨ steps = body :=
    eq_of_documents justified orderly once distinct.created (adds.trans grown) closed taken
      documents
  have own (steps : List Step) (reached : inline <+: steps) (taken : steps <+: history) :=
    ownParameter_ofSteps orderly distinct justified reached taken
  have between : (ModuleDocs.ofSteps site moduleId body).store.doc? id =
      (ModuleDocs.ofSteps site moduleId (inline ++ [first])).store.doc? id := by
    refine doc?_eq_of_spared added
      (own _ (List.prefix_append _ _) (added.trans grown)).known fun middle step after before => ?_
    intro documents
    rcases only middle step (before.trans grown) documents with same | same
    · exact ne_of_point after same
    · exact ne_of_point before same.symm
  have last : (ModuleDocs.ofSteps site moduleId history).store.doc? id =
      (ModuleDocs.ofSteps site moduleId (body ++ [second])).store.doc? id := by
    refine doc?_eq_of_spared closed
      (own _ (adds.trans (List.prefix_append _ _)) closed).known fun middle step after before => ?_
    intro documents
    rcases only middle step before documents with same | same
    · exact ne_of_point (added.trans ((List.prefix_append _ _).trans after)) same
    · exact ne_of_point after same
  refine ⟨added, ⟨frame, closed⟩, ?doc, only, fun steps step taken known changed =>
    only steps step taken (documents_of_changed known changed)⟩
  have other : id ≠ around.value := by
    rintro rfl
    have mem : Step.addParameter around.value parameter.name around.value ∈ history :=
      (adds.trans grown).subset (List.mem_append_right before List.mem_cons_self)
    exact distinct.created.noParameter justified _ _ mem
  have atInline : (ModuleDocs.ofSteps site moduleId (inline ++ [first])).store.doc? id = some
      (({} : ValueDoc).mergeOption (site.inlineRecord?
        (ModuleDocs.ofSteps site moduleId inline).store parameter.occurrence.node)) := by
    have documented := doc?_document_identifier site
      (ModuleDocs.ofSteps site moduleId inline).store identifier id
    rw [doc?_of_addParameter orderly (adds.trans grown), ← function] at documented
    rw [ModuleDocs.ofSteps_concat]
    exact documented
  refine last.trans ?_
  rw [ModuleDocs.ofSteps_concat]
  refine (doc?_document_function function (own body adds grown) other _).trans ?_
  rw [between, atInline]
  rfl

end

/-- The inline comment of a node is the nearest token before it, if that is a block comment. -/
theorem inlineComment?_siteOf {tree : Tree} (placed : Syntax.Placed source tree.leaves)
    (node : Node) : (siteOf source tree).inlineComment? node =
      (((streamOf source tree).tokens.filter (·.span.stop ≤ node.span.start)).getLast?.filter
        (·.kind = .blockComment)).map (·.text) := by
  rw [Site.inlineComment?_eq, Site.inlineToken?, Site.preceding?, siteOf,
    head?_before_streamOf placed]

/-- If the parameters of a function are identifiers with different names, each of them is documented
by exactly two steps of a walk: by the block comment that is the nearest token before it, and then
by the body comment of the function. What comes out at the end is what these two say. -/
theorem parameters_documentedTwice (moduleId source : Text) (tree : Tree) {before : List Step}
    {here : Occurrence}
    (evaluated : before ++ [.create ModelType.function (some here)] <+:
      (ofSource moduleId source tree).history)
    (identifiers : ∀ parameter ∈ tree.parametersAt source here.place,
      parameter.occurrence.node.kind = .identifier)
    (names : ((tree.parametersAt source here.place).map (·.name)).Nodup) :
    let site := siteOf source tree
    let history := (ofSource moduleId source tree).history
    let function := (ModuleDocs.ofSteps site moduleId before).store.nextId
    ModuleDocs.ofSource moduleId source tree = ModuleDocs.ofSteps site moduleId history ∧
      ∀ parameter ∈ tree.parametersAt source here.place, ∃ id inline body,
        (ModuleDocs.ofSource moduleId source tree).store.parameter? function parameter.name =
            some id ∧
          DocumentedTwice site moduleId history ⟨here, function⟩ parameter id inline body ∧
          (Syntax.Placed source tree.leaves → site.inlineComment? parameter.occurrence.node =
            ((site.stream.tokens.filter
              (·.span.stop ≤ parameter.occurrence.node.span.start)).getLast?.filter
                (·.kind = .blockComment)).map (·.text)) := by
  intro site history function
  obtain ⟨docs, justified⟩ := sound_ofSource moduleId source tree
  obtain ⟨⟨-, orderly⟩, closed⟩ := closing_ofSource moduleId source tree
  have once := nodup_documented_ofSource moduleId source tree
  have distinct : DistinctParameters site moduleId source tree history here function :=
    ⟨⟨before, _, evaluated, rfl⟩, names⟩
  obtain ⟨body, frame, closes, added⟩ :=
    (closed before here evaluated).resolve_left List.not_mem_nil
  refine ⟨docs, fun parameter mem => ?_⟩
  obtain ⟨earlier, id, adds⟩ := added parameter mem
  rw [List.append_cons] at adds
  refine ⟨id, _, body, ?_, documentedTwice_of_closed justified orderly once distinct
    (orderly.of_point evaluated rfl) (identifiers parameter mem) adds closes, fun placed => ?_⟩
  · have later :=
      (List.prefix_append _ _).trans (adds.trans ((List.prefix_append _ _).trans closes))
    have held := parameter?_ofSteps orderly distinct later (List.prefix_refl _)
    rwa [← docs] at held
  · exact inlineComment?_siteOf placed parameter.occurrence.node

/-- A function with two parameters. The first one has a comment of its own and a key in the body
comment, and it is returned. -/
def annotatedSource : Text :=
  ["function f(/* Number? */ a, b) \x7b", "// a:", "//   which one", "// b: String",
    "return a // Text", ";", "\x7d"].flatMap fun line => line.toList ++ ['\n']

def annotatedTree : Tree :=
  part "program" 0 88 none [
    part "function_declaration" 0 87 none [
      token "function" 0,
      part "identifier" 9 10 (some "name") [],
      part "formal_parameters" 10 30 (some "parameters") [
        token "(" 10,
        part "comment" 11 24 none [],
        part "identifier" 25 26 none [],
        token "," 26,
        part "identifier" 28 29 none [],
        token ")" 29],
      part "statement_block" 31 87 (some "body") [
        token "\x7b" 31,
        part "comment" 33 38 none [],
        part "comment" 39 53 none [],
        part "comment" 54 66 none [],
        part "return_statement" 67 85 none [
          token "return" 67,
          part "identifier" 74 75 none [],
          part "comment" 76 83 none [],
          token ";" 84],
        token "\x7d" 86]]]

def annotatedFunction : Occurrence :=
  ⟨[0], ⟨.function, ⟨0, 87⟩, some ⟨31, 87⟩, none⟩⟩

theorem siteOf_annotated : siteOf annotatedSource annotatedTree =
    ⟨⟨annotatedSource, tokensOf annotatedSource annotatedTree⟩, 0⟩ := by
  rw [siteOf, streamOf_eq_of_sorted (by decide +kernel)]

theorem parameters_documentedTwice_annotated :
    [] ++ [.create ModelType.function (some annotatedFunction)] <+:
        (ofSource "app".toList annotatedSource annotatedTree).history ∧
      (annotatedTree.parametersAt annotatedSource annotatedFunction.place).map
        (fun parameter => (parameter.occurrence.node.kind, parameter.name)) =
          [(.identifier, "a".toList), (.identifier, "b".toList)] ∧
      (∀ parameter ∈ annotatedTree.parametersAt annotatedSource annotatedFunction.place,
        ∃ id inline body, DocumentedTwice (siteOf annotatedSource annotatedTree) "app".toList
          (ofSource "app".toList annotatedSource annotatedTree).history ⟨annotatedFunction, 0⟩
            parameter id inline body) ∧
      [1, 2].map (ModuleDocs.ofSource "app".toList annotatedSource annotatedTree).store.doc? =
        [some { type := .text "Number".toList, summary := "which one".toList, isOptional := true },
          some { type := .text "String".toList }] := by
  have evaluated : [] ++ [.create ModelType.function (some annotatedFunction)] <+:
      (ofSource "app".toList annotatedSource annotatedTree).history := by
    rw [ofSource_eq, siteOf_annotated]
    decide +kernel
  have parameters : (annotatedTree.parametersAt annotatedSource annotatedFunction.place).map
      (fun parameter => (parameter.occurrence.node.kind, parameter.name)) =
        [(.identifier, "a".toList), (.identifier, "b".toList)] := by
    decide +kernel
  have twice := parameters_documentedTwice "app".toList annotatedSource annotatedTree evaluated
    (by decide +kernel) (by decide +kernel)
  refine ⟨evaluated, parameters, fun parameter mem => ?_, ?_⟩
  · obtain ⟨id, inline, body, -, documented, -⟩ := twice.2 parameter mem
    exact ⟨id, inline, body, documented⟩
  · rw [ModuleDocs.ofSource, ofSource_eq, siteOf_annotated]
    decide +kernel

end Walk

end CommentDocs
