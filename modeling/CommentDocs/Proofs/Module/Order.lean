import CommentDocs.Proofs.Module.Once
import CommentDocs.Proofs.Syntax.Positions

/-!
# The order of documentation

Nodes are documented in the order of the source, but for one thing: a call visits its arguments
before what it calls. What stands in the callee is documented after what stands in the arguments,
and the names that it publishes are not yet in scope there. In trees whose fields are in disorder
the same goes for the body of a function and its parameters.
-/

namespace CommentDocs

open Binding Syntax

namespace Syntax.Tree

/-- Of two places, the first one lies in what is visited last of a node, and the second one in a
list of the same node. -/
def Delayed (root : Tree) (late early : Place) : Prop :=
  ∃ place first second form field, place.Parts first second late early ∧
    root.formAt? place = some form ∧ form.lastField? = some field ∧
    root.fieldAt? (first :: place) = some field ∧
    form.isListField (root.fieldAt? (second :: place)) = true

variable {root : Tree} {place late early : Place} {first second : Nat}

theorem Delayed.visitsBefore (delayed : root.Delayed late early)
    (parts : place.Parts first second late early) (differ : first ≠ second) :
    root.VisitsBefore place second first := by
  obtain ⟨there, one, other, form, field, also, visited, last, own, list⟩ := delayed
  rcases parts.unique differ also with rfl | ⟨rfl, rfl, rfl⟩
  · rw [own, Form.isListField_lastField last] at list
    cases list
  · exact .list visited last list own

/-- Nothing is delayed against what is above it. -/
theorem Delayed.not_suffix (delayed : root.Delayed late early) : ¬ early <:+ late := by
  obtain ⟨there, one, other, form, field, parts, visited, last, own, list⟩ := delayed
  intro above
  have same := Place.eq_of_suffix parts.left (parts.right.trans above)
  rw [← same, own, Form.isListField_lastField last] at list
  cases list

end Syntax.Tree

namespace ModuleDocs

variable (site : Site) (moduleId : Text) {steps : List Step} {name : Text} {value : ValueId}

theorem lookup?_of_scopes {store : Store Empty} {bindings : Table ValueId}
    (scopes : store.scopes = [{ bindings }]) (name : Text) :
    store.lookup? 0 name = bindings.get? name := by
  rw [Store.lookup?, scopes]
  cases found : bindings.get? name <;> simp [found]

/-- A published name is in scope. -/
theorem lookup?_isSome_of_publish (own : site.scope = 0)
    (published : Step.publish name value ∈ steps) :
    ((ofSteps site moduleId steps).store.lookup? site.scope name).isSome := by
  induction steps using List.reverseRecOn with
  | nil => cases published
  | append_singleton steps step ih =>
    rw [ofSteps_concat]
    by_cases binds : ∃ key target, step = .publish key target
    · obtain ⟨key, target, rfl⟩ := binds
      obtain ⟨bindings, scopes, -⟩ := scopes_ofSteps site moduleId steps
      have bound : ((ofSteps site moduleId steps).apply site (.publish key target)).store.scopes =
          [{ bindings := bindings.put key target }] := by
        simp [apply, mapStore, Store.setVariable, scopes, own]
      rw [own, lookup?_of_scopes bound, Table.get?_put]
      split
      · rfl
      · rename_i other
        rcases List.mem_append.mp published with before | last
        · have known := ih before
          rwa [own, lookup?_of_scopes scopes] at known
        · cases List.mem_singleton.mp last
          exact absurd rfl other
    · have quiet : ∀ key target, step ≠ .publish key target :=
        fun key target same => binds ⟨key, target, same⟩
      rw [Store.lookup?_congr (scopes_apply site quiet _)]
      refine ih ((List.mem_append.mp published).resolve_right fun last => ?_)
      exact binds ⟨name, value, (List.mem_singleton.mp last).symm⟩

end ModuleDocs

namespace Walk

open ModuleDocs (Step)

variable {site : Site} {moduleId source : Text} {root : Tree} {steps : List Step}
variable {place : Place} {first last : Nat} {branches : Nat → Prop} {taken : List Taken}

theorem Tour.inTurn_of_lt
    (tour : Tour site moduleId source root steps place first last branches taken) {i j : Nat}
    {one other : Taken} (here : taken[i]? = some one) (there : taken[j]? = some other)
    (before : i < j) : InTurn root one other := by
  obtain ⟨inside, rfl⟩ := List.getElem?_eq_some_iff.mp here
  obtain ⟨also, rfl⟩ := List.getElem?_eq_some_iff.mp there
  exact List.pairwise_iff_getElem.mp tour.inTurn i j inside also before

/-- What is done in a subtree that ends before a node starts is done before the node is
documented, unless it is delayed. -/
theorem Tour.lt_iff_not_delayed
    (tour : Tour site moduleId source root steps place first last branches taken)
    (ordered : root.isOrdered) {i j : Nat} {one other : Taken} {above : Place}
    (here : taken[i]? = some one) (there : taken[j]? = some other)
    (late : 2 ≤ other.step.stage) (inside : above <:+ one.place)
    (before : root.EndsBefore above other.place) : i < j ↔ ¬ root.Delayed above other.place := by
  obtain ⟨⟨left, right, found, present, -, apart⟩, outside⟩ := before
  have distinct : one.place ≠ other.place := fun same => outside (same ▸ inside)
  have differ : i ≠ j := by
    rintro rfl
    rw [here] at there
    cases there
    exact distinct rfl
  -- the step that does not come first has its turn after the other one
  rcases Place.suffix_or_parts above other.place with below | within | ⟨node, a, b, branch, parts⟩
  · exact absurd below outside
  · refine iff_of_true ?_ fun delayed => delayed.not_suffix within
    refine (Nat.lt_or_gt_of_ne differ).resolve_right fun after => distinct ?_
    exact ((tour.inTurn_of_lt there here after).closed late (within.trans inside)).symm
  · have own : node.Parts a b one.place other.place := ⟨parts.left.trans inside, parts.right⟩
    rcases Nat.lt_or_gt_of_ne differ with before | after
    · refine iff_of_true before fun delayed => ?_
      have turn := (tour.inTurn_of_lt here there before).apart own
      exact (turn.resolve_left branch).asymm (delayed.visitsBefore parts branch)
    · refine iff_of_false (Nat.lt_asymm after) fun timely => ?_
      have turn := (tour.inTurn_of_lt there here after).apart own.symm
      cases turn.resolve_left branch.symm with
      | list visited last list field =>
        exact timely ⟨node, a, b, _, _, parts, visited, last, field, list⟩
      | order plain lt =>
        have stops := Tree.stop_le_start_of_parts ordered parts.symm lt present found
        omega

/-- Documentation happens in the order of the source, but for the callees of calls. In an ordered
tree take a subtree that ends before a documented node starts. All that is done in the subtree,
documenting its root included, is done before the node is documented if and only if the subtree
is not delayed; and then the names that are published in it are in scope when the comment of the
node is read. -/
theorem documented_in_order (moduleId source : Text) (tree : Tree) (ordered : tree.isOrdered) :
    ∃ taken : List Taken, (ofSource moduleId source tree).history = taken.map (·.step) ∧
      (∀ one ∈ taken, Placed (siteOf source tree) moduleId source tree
        (ofSource moduleId source tree).history one) ∧
      ∀ i j one here value frame above, taken[i]? = some one →
        taken[j]? = some ⟨here.place, .document here value frame⟩ →
        above <:+ one.place → tree.EndsBefore above here.place →
          (i < j ↔ ¬ tree.Delayed above here.place) ∧
          ∀ name target, one.step = .publish name target → ¬ tree.Delayed above here.place →
            ((ModuleDocs.ofSteps (siteOf source tree) moduleId
              ((ofSource moduleId source tree).history.take j)).store.lookup?
                (siteOf source tree).scope name).isSome := by
  obtain ⟨taken, steps, tour⟩ := tour_ofSource moduleId source tree
  refine ⟨taken, steps, tour.placed, ?_⟩
  intro i j one here value frame above first second inside before
  have timely : i < j ↔ ¬ tree.Delayed above here.place :=
    tour.lt_iff_not_delayed ordered first second
      (Nat.le_of_succ_le (stage_document here value frame).1) inside before
  refine ⟨timely, fun name target publishes prompt => ?_⟩
  have done : ((ofSource moduleId source tree).history.take j)[i]? =
      some (.publish name target) := by
    rw [List.getElem?_take_of_lt (timely.mpr prompt), steps, List.getElem?_map, first,
      Option.map_some, publishes]
  exact ModuleDocs.lookup?_isSome_of_publish _ _ rfl (List.mem_of_getElem? done)

/-- A function that publishes a name is called with a function whose parameter has this name for
its type. -/
def calledSource : Text :=
  ["(function () \x7b", "function A() \x7b\x7d", "\x7d)(function () \x7b",
    "function g(/*A*/ x) \x7b\x7d", "\x7d);"].flatMap fun line => line.toList ++ ['\n']

def calledTree : Tree :=
  part "program" 0 75 none [
    part "expression_statement" 0 74 none [
      part "call_expression" 0 73 none [
        part "parenthesized_expression" 0 33 (some "function") [
          token "(" 0,
          part "function_expression" 1 32 none [
            token "function" 1,
            part "formal_parameters" 10 12 (some "parameters") [
              token "(" 10,
              token ")" 11],
            part "statement_block" 13 32 (some "body") [
              token "\x7b" 13,
              part "function_declaration" 15 30 none [
                token "function" 15,
                part "identifier" 24 25 (some "name") [],
                part "formal_parameters" 25 27 (some "parameters") [
                  token "(" 25,
                  token ")" 26],
                part "statement_block" 28 30 (some "body") [
                  token "\x7b" 28,
                  token "\x7d" 29]],
              token "\x7d" 31]],
          token ")" 32],
        part "arguments" 33 73 (some "arguments") [
          token "(" 33,
          part "function_expression" 34 72 none [
            token "function" 34,
            part "formal_parameters" 43 45 (some "parameters") [
              token "(" 43,
              token ")" 44],
            part "statement_block" 46 72 (some "body") [
              token "\x7b" 46,
              part "function_declaration" 48 70 none [
                token "function" 48,
                part "identifier" 57 58 (some "name") [],
                part "formal_parameters" 58 67 (some "parameters") [
                  token "(" 58,
                  part "comment" 59 64 none [],
                  part "identifier" 65 66 none [],
                  token ")" 66],
                part "statement_block" 68 70 (some "body") [
                  token "\x7b" 68,
                  token "\x7d" 69]],
              token "\x7d" 71]],
          token ")" 72]],
      token ";" 73]]

def calledSteps : List Step :=
  (ofSource "app".toList calledSource calledTree).history

/-- The function that is declared in the callee, and the parameter of the function that is declared
in the argument. -/
theorem endsBefore_called :
    calledTree.EndsBefore [1, 2, 1, 0, 0, 0] [2, 2, 1, 2, 1, 1, 0, 0] :=
  ⟨⟨_, _, rfl, rfl, by decide, by decide⟩, by decide⟩

/-- The parameter is documented before the declared function is, and before its name is in scope. -/
theorem calledSteps_spec :
    (calledSteps[13]?).bind Step.documented? = some ([1, 2, 1, 0, 0, 0], .function) ∧
      (calledSteps[6]?).bind Step.documented? = some ([2, 2, 1, 2, 1, 1, 0, 0], .identifier) ∧
      calledSteps[12]? = some (.publish "A".toList 4) ∧
      (ModuleDocs.ofSteps (siteOf calledSource calledTree) "app".toList
        (calledSteps.take 6)).store.lookup? 0 "A".toList = none := by
  have site : siteOf calledSource calledTree =
      ⟨⟨calledSource, tokensOf calledSource calledTree⟩, 0⟩ := by
    rw [siteOf, streamOf_eq_of_sorted (by decide +kernel)]
  simp only [calledSteps, ofSource_eq, site]
  decide +kernel

theorem isOrdered_called : calledTree.isOrdered := by
  decide +kernel

/-- The declared function is documented after the parameter, so it is delayed. -/
theorem documented_in_order_called :
    calledTree.isOrdered ∧ calledTree.EndsBefore [1, 2, 1, 0, 0, 0] [2, 2, 1, 2, 1, 1, 0, 0] ∧
      calledTree.Delayed [1, 2, 1, 0, 0, 0] [2, 2, 1, 2, 1, 1, 0, 0] := by
  obtain ⟨first, second, -⟩ := calledSteps_spec
  obtain ⟨_, found, documented⟩ := Option.bind_eq_some_iff.mp first
  obtain ⟨_, present, also⟩ := Option.bind_eq_some_iff.mp second
  obtain ⟨taken, steps, placed, turns⟩ :=
    documented_in_order "app".toList calledSource calledTree isOrdered_called
  rw [calledSteps, steps, List.getElem?_map] at found present
  obtain ⟨one, inside, rfl⟩ := Option.map_eq_some_iff.mp found
  obtain ⟨⟨place, _⟩, after, rfl⟩ := Option.map_eq_some_iff.mp present
  have own := (placed one (List.mem_of_getElem? inside)).place_of_documented? documented
  have other := (placed _ (List.mem_of_getElem? after)).place_of_documented? also
  obtain ⟨here, value, frame, rfl, level⟩ := Step.exists_of_documented? also
  rw [← show here.place = place from level.trans other.1] at after
  have turn := (turns 13 6 one here value frame [1, 2, 1, 0, 0, 0] inside after
    (own.1 ▸ List.suffix_refl _) (level ▸ endsBefore_called)).1
  refine ⟨isOrdered_called, endsBefore_called, Classical.byContradiction fun prompt => ?_⟩
  exact absurd (turn.mpr (level ▸ prompt)) (by decide)

/-- The function that the callee declares is documented after the parameter in the argument, and
its name is not in scope there. -/
theorem documented_callee_late :
    calledTree.isOrdered ∧ calledTree.EndsBefore [1, 2, 1, 0, 0, 0] [2, 2, 1, 2, 1, 1, 0, 0] ∧
      calledSteps[12]? = some (.publish "A".toList 4) ∧
      (ModuleDocs.ofSteps (siteOf calledSource calledTree) "app".toList
        (calledSteps.take 6)).store.lookup? 0 "A".toList = none ∧
      ¬ ∀ (i j : Nat) here there value other frame context,
        calledSteps[i]? = some (Step.document here value frame) →
        calledSteps[j]? = some (Step.document there other context) →
        calledTree.EndsBefore here.place there.place → i < j := by
  obtain ⟨first, second, published, missing⟩ := calledSteps_spec
  refine ⟨isOrdered_called, endsBefore_called, published, missing, fun all => ?_⟩
  obtain ⟨_, found, documented⟩ := Option.bind_eq_some_iff.mp first
  obtain ⟨_, present, also⟩ := Option.bind_eq_some_iff.mp second
  obtain ⟨here, value, frame, rfl, level⟩ := Step.exists_of_documented? documented
  obtain ⟨there, other, context, rfl, same⟩ := Step.exists_of_documented? also
  exact absurd (all 13 6 here there value other frame context found present
    (level ▸ same ▸ endsBefore_called)) (by decide)

end Walk

end CommentDocs
