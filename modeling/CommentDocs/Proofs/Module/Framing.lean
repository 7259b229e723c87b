import CommentDocs.Proofs.Module.Once
import Mathlib.Data.List.Basic

/-!
# Frames and returns

The frame in which a node is documented decides what kind of comment is read, and the owner of a
return statement decides which function gets its value. Both are handed down through the visits
of all the nodes in between. What comes of it is said by the tree alone: the frame is the
innermost literal around the node, and a function is given the values of the return statements
that have it as their innermost literal, in the order in which their visits end, and last the
value of its body if this is an expression.
-/

namespace CommentDocs

open Binding Syntax

namespace Syntax

/-- A node is a return statement by its kind if it is one by its form. -/
theorem Tree.Shows.returning_iff {source : Text} {root : Tree} {here : Occurrence}
    (shown : root.Shows source here) :
    (here.node.kind = .returning ∧ (root.formAt? here.place).isSome) ↔
      root.formAt? here.place = some .returning := by
  obtain ⟨node, found, viewed⟩ := shown
  rcases Tree.formAt?_eq found with list | form
  · simp [list]
  · rcases viewed with same | ⟨method, same⟩
    · rw [form, same, Tree.toNode, kindOfType_eq]
      cases Form.ofType node.type <;> simp <;> split <;> simp
    · rw [form, same, method]
      exact iff_of_false (by rintro ⟨⟨⟩, -⟩) (by decide)

end Syntax

namespace ModuleDocs.Step

def returned? (function : ValueId) : Step → Option ValueId
  | .appendReturn target value _ => if target = function then some value else none
  | _ => none

/-- The value of a visited return statement, if the literal at a place is the innermost one
around it. -/
def returnedIn? (root : Tree) (place : Place) : Step → Option ValueId
  | .document here value _ =>
    if root.formAt? here.place = some .returning ∧ root.enclosing? here.place = some place then
      some value
    else none
  | _ => none

def byStatement? (function : ValueId) : Step → Option ValueId
  | .appendReturn target value (some _) => if target = function then some value else none
  | _ => none

def byBody? (function : ValueId) : Step → Option ValueId
  | .appendReturn target value none => if target = function then some value else none
  | _ => none

variable {function value : ValueId} {step : Step}

theorem byStatement?_eq_some (given : step.byStatement? function = some value) :
    ∃ statement, step = .appendReturn function value (some statement) := by
  rcases step with _ | _ | _ | _ | _ | ⟨target, returned, _ | statement⟩ | _ | _
  case appendReturn.some =>
    obtain ⟨rfl, same⟩ := Option.ite_none_right_eq_some.mp given
    cases same
    exact ⟨statement, rfl⟩
  all_goals cases given

theorem byBody?_eq_some : step.byBody? function = some value ↔
    step = .appendReturn function value none := by
  constructor
  · intro given
    rcases step with _ | _ | _ | _ | _ | ⟨target, returned, _ | statement⟩ | _ | _
    case appendReturn.none =>
      obtain ⟨rfl, same⟩ := Option.ite_none_right_eq_some.mp given
      cases same
      rfl
    all_goals cases given
  · rintro rfl
    exact if_pos rfl

theorem returned?_eq : step.returned? function =
    (step.byStatement? function).or (step.byBody? function) := by
  rcases step with _ | _ | _ | _ | _ | ⟨target, value, _ | statement⟩ | _ | _
  all_goals first | rfl | exact (Option.or_none ..).symm

theorem byBody?_eq_none (given : (step.byStatement? function).isSome) :
    step.byBody? function = none := by
  obtain ⟨value, given⟩ := Option.isSome_iff_exists.mp given
  obtain ⟨statement, rfl⟩ := byStatement?_eq_some given
  rfl

end ModuleDocs.Step

namespace Walk

open ModuleDocs (Step)

/-- A list whose elements are of two sorts, those of the second sort after those of the first. -/
theorem filterMap_orElse_of_pairwise {α β : Type} {f g : α → Option β} {xs : List α}
    (apart : ∀ x, (f x).isSome → g x = none)
    (sorted : xs.Pairwise fun x y => (g x).isSome → f y = none) :
    xs.filterMap (fun x => (f x).or (g x)) = xs.filterMap f ++ xs.filterMap g := by
  induction sorted with
  | nil => rfl
  | @cons x rest first _ ih =>
    rw [List.filterMap_cons, List.filterMap_cons, List.filterMap_cons, ih]
    cases left : f x with
    | some value => rw [apart x (by rw [left]; rfl)]; rfl
    | none =>
      cases right : g x with
      | none => rfl
      | some value =>
        have none : rest.filterMap f = [] :=
          List.filterMap_eq_nil_iff.mpr fun y mem => first y mem (by rw [right]; rfl)
        simp [none]

theorem eq_singleton_of_pairwise_false {α : Type} {xs : List α}
    (atMostOne : xs.Pairwise fun _ _ => False) {x : α} (mem : x ∈ xs) : xs = [x] := by
  cases atMostOne with
  | nil => cases mem
  | cons alone _ =>
    cases List.eq_nil_iff_forall_not_mem.mpr alone
    rw [List.mem_singleton.mp mem]

section

variable {site : Site} {moduleId source : Text} {root : Tree} {steps : List Step}
variable {place : Place} {first last : Nat} {branches : Nat → Prop} {taken : List Taken}
variable {here : Occurrence} {function : ValueId}

/-- Return statements give their values to the innermost literals around them. -/
theorem Tour.byStatement?_eq
    (tour : Tour site moduleId source root (taken.map (·.step)) place first last branches taken)
    (kind : here.node.kind = .function)
    (created : Created site moduleId (taken.map (·.step)) (some here) function) :
    (taken.map (·.step)).filterMap (Step.byStatement? function) =
      (taken.map (·.step)).filterMap (Step.returnedIn? root here.place) := by
  let pick : Occurrence × ValueId × ValueId → Option ValueId
    | (_, target, value) => if target = function then some value else none
  have given : (taken.map (·.step)).filterMap (Step.byStatement? function) =
      (returnsBy (taken.map (·.step))).filterMap pick := by
    rw [returnsBy, List.filterMap_filterMap]
    congr 1
    funext step
    rcases step with _ | _ | _ | _ | _ | ⟨target, value, _ | statement⟩ | _ | _ <;> rfl
  have once := tour.nodup_evaluated
  rw [given, tour.returned, returnsIn, List.filterMap_filterMap]
  refine List.filterMap_congr fun step mem => ?_
  cases step with
  | document there value frame =>
    obtain ⟨own, same, shown, around, held⟩ := tour.placed_of_mem mem
    rw [← same] at around
    cases frame with
    | none => simp [Step.returnedIn?, around]
    | some frame =>
      -- the frame is the literal that has the value `function` if it is at the same place
      have framed : frame.here.place = here.place ↔
          frame.here.node.kind = .function ∧ frame.value = function := by
        have inside := held frame rfl
        constructor
        · intro level
          obtain rfl := inside.eq_of_nodup once level created
          cases inside.unique created
          exact ⟨kind, rfl⟩
        · rintro ⟨-, rfl⟩
          cases inside.unique created
          rfl
      simp only [Step.returnedIn?, around, ← shown.returning_iff, Option.map_some,
        Option.some.injEq, framed]
      by_cases given : there.node.kind = .returning ∧ (root.formAt? there.place).isSome ∧
          frame.here.node.kind = .function
      · simp [given, pick]
      · rw [if_neg given, if_neg fun all => given ⟨all.1.1, all.1.2, all.2.1⟩]
        rfl
  | _ => rfl

theorem Placed.of_body {one : Taken} {value : ValueId}
    (placed : Placed site moduleId source root steps one)
    (body : one.step = .appendReturn function value none) :
    ∃ here body, here.place = one.place ∧
      BodyReturned site moduleId source root steps here body function value := by
  rwa [Placed, body] at placed

theorem Placed.of_statement {one : Taken} {value : ValueId} {statement : Occurrence}
    (placed : Placed site moduleId source root steps one)
    (given : one.step = .appendReturn function value (some statement)) :
    ∃ around, root.enclosing? one.place = some around.place ∧
      Created site moduleId steps (some around) function := by
  rw [Placed, given] at placed
  obtain ⟨-, around, -, enclosing, created⟩ := placed
  exact ⟨around, enclosing, created⟩

/-- A function is given values by the return statements before it is given one by its body. -/
theorem Tour.byBody?_after
    (tour : Tour site moduleId source root (taken.map (·.step)) place first last branches taken) :
    (taken.map (·.step)).Pairwise fun step other =>
      (step.byBody? function).isSome → other.byStatement? function = none := by
  refine List.pairwise_map.mpr (tour.inTurn.imp_of_mem fun {one other} mem also turn body => ?_)
  obtain ⟨value, body⟩ := Option.isSome_iff_exists.mp body
  refine Option.eq_none_iff_forall_ne_some.mpr fun given statement => ?_
  obtain ⟨here, _, placed, returned⟩ :=
    (tour.placed one mem).of_body (Step.byBody?_eq_some.mp body)
  obtain ⟨there, last⟩ := Step.byStatement?_eq_some statement
  obtain ⟨around, enclosing, created⟩ := (tour.placed other also).of_statement last
  cases returned.created.unique created
  -- the body is documented at the function, the statement below it, and so not later
  obtain ⟨below, apart⟩ := Tree.enclosing?_suffix enclosing
  rw [placed] at below apart
  refine apart (turn.closed ?_ below)
  rw [Step.byBody?_eq_some.mp body]
  exact Nat.le_refl 2

/-- A function is given the value of its body if this is an expression, and no other value. -/
theorem Tour.byBody?_eq
    (tour : Tour site moduleId source root (taken.map (·.step)) place first last branches taken)
    (created : Created site moduleId (taken.map (·.step)) (some here) function) :
    match root.expressionBody? here.place with
    | none => (taken.map (·.step)).filterMap (Step.byBody? function) = []
    | some body => ∃ value, (taken.map (·.step)).filterMap (Step.byBody? function) = [value] ∧
        BodyReturned site moduleId source root (taken.map (·.step)) here body function value := by
  -- what a body gives to the function, it gives at the place of the function
  have given {one : Taken} (mem : one ∈ taken) {value : ValueId}
      (body : one.step.byBody? function = some value) :
      one.place = here.place ∧ one.step.stage = 2 ∧
        ∃ body, root.expressionBody? here.place = some body := by
    have last := Step.byBody?_eq_some.mp body
    obtain ⟨there, expression, placed, returned⟩ := (tour.placed one mem).of_body last
    cases returned.created.unique created
    exact ⟨placed.symm, by rw [last]; rfl, expression, returned.found⟩
  have atMostOne : ((taken.map (·.step)).filterMap (Step.byBody? function)).Pairwise
      fun _ _ => False := by
    rw [List.filterMap_map]
    refine List.pairwise_filterMap.mpr (tour.inTurn.imp_of_mem ?_)
    intro one other mem also turn value body next again
    obtain ⟨level, stage, -⟩ := given mem body
    obtain ⟨same, later, -⟩ := given also again
    have turn := turn.stage (level.trans same.symm)
    omega
  split
  · rename_i block
    refine List.filterMap_eq_nil_iff.mpr fun step mem => ?_
    obtain ⟨one, inside, rfl⟩ := List.mem_map.mp mem
    refine Option.eq_none_iff_forall_ne_some.mpr fun value body => ?_
    obtain ⟨-, -, expression, found⟩ := given inside body
    rw [block] at found
    cases found
  · rename_i body found
    obtain ⟨before, type, first, -⟩ := id created
    obtain ⟨-, -, -, all⟩ := tour.placed_of_mem
      (first.subset (List.mem_append_right before List.mem_cons_self))
    obtain ⟨target, value, returned⟩ := all body found
    obtain rfl := returned.created.eq_of_nodup tour.nodup_evaluated rfl created
    obtain ⟨earlier, last, -⟩ := returned.returned
    have mem : value ∈ (taken.map (·.step)).filterMap (Step.byBody? target) :=
      List.mem_filterMap.mpr ⟨_, last.subset (List.mem_append_right earlier List.mem_cons_self),
        Step.byBody?_eq_some.mpr rfl⟩
    exact ⟨value, eq_singleton_of_pairwise_false atMostOne mem, returned⟩

end

/-- What the steps of a walk have to do with the literals around their nodes. A node is documented
in the frame of the innermost literal around it, with the value that was made for that literal. A
function is given the values of the visited return statements whose innermost literal it is, in
the order in which they are documented, then the value of its body if this is an expression; and
return statements give values to no other function. Nodes that only list others are no literals;
if they do not even have the type of one, the innermost literal is the nearest node around that
has the type of one. -/
theorem framed_and_returned (moduleId source : Text) (tree : Tree) :
    (∀ here value frame, Step.document here value frame ∈ (ofSource moduleId source tree).history →
      tree.enclosing? here.place = frame.map (·.here.place) ∧ ∀ around ∈ frame,
        Created (siteOf source tree) moduleId (ofSource moduleId source tree).history
          (some around.here) around.value) ∧
      (∀ here function, here.node.kind = .function →
        Created (siteOf source tree) moduleId (ofSource moduleId source tree).history (some here)
          function →
        match tree.expressionBody? here.place with
        | none => (ofSource moduleId source tree).history.filterMap (Step.returned? function) =
            (ofSource moduleId source tree).history.filterMap (Step.returnedIn? tree here.place)
        | some body => ∃ value,
            (ofSource moduleId source tree).history.filterMap (Step.returned? function) =
              (ofSource moduleId source tree).history.filterMap
                (Step.returnedIn? tree here.place) ++ [value] ∧
            BodyReturned (siteOf source tree) moduleId source tree
              (ofSource moduleId source tree).history here body function value) ∧
      (∀ function value statement,
        Step.appendReturn function value (some statement) ∈
          (ofSource moduleId source tree).history →
        ∃ around : Occurrence, around.node.kind = .function ∧
          tree.enclosing? statement.place = some around.place ∧
            Created (siteOf source tree) moduleId (ofSource moduleId source tree).history
              (some around) function) ∧
      ((∀ place, tree.hasLiteralType place → (tree.formAt? place).isSome) →
        ∀ place, tree.enclosing? place = tree.nearest? place) := by
  obtain ⟨taken, steps, tour⟩ := tour_ofSource moduleId source tree
  rw [steps] at tour ⊢
  refine ⟨fun here value frame mem => ?_, fun here function kind created => ?_,
    fun function value statement mem => ?_, Tree.enclosing?_eq_nearest?⟩
  · obtain ⟨place, same, -, around, held⟩ := tour.placed_of_mem mem
    exact ⟨same ▸ around, held⟩
  · have parted : (taken.map (·.step)).filterMap (Step.returned? function) =
        (taken.map (·.step)).filterMap (Step.returnedIn? tree here.place) ++
          (taken.map (·.step)).filterMap (Step.byBody? function) := by
      rw [← tour.byStatement?_eq kind created,
        ← filterMap_orElse_of_pairwise (fun _ => Step.byBody?_eq_none) tour.byBody?_after]
      exact congrArg₂ _ (funext fun _ => Step.returned?_eq) rfl
    have body := tour.byBody?_eq created
    split
    · rename_i block
      rw [block] at body
      rw [parted, body, List.append_nil]
    · rename_i expression found
      rw [found] at body
      obtain ⟨value, own, returned⟩ := body
      exact ⟨value, by rw [parted, own], returned⟩
  · obtain ⟨place, same, around, rest⟩ := tour.placed_of_mem mem
    exact ⟨around, same ▸ rest⟩

/-- A function that returns a function. -/
def nestedSource : Text :=
  "function f() \x7b return () => 1; \x7d\n".toList

def nestedTree : Tree :=
  part "program" 0 33 none [
    part "function_declaration" 0 32 none [
      token "function" 0,
      part "identifier" 9 10 (some "name") [],
      part "formal_parameters" 10 12 (some "parameters") [token "(" 10, token ")" 11],
      part "statement_block" 13 32 (some "body") [
        token "\x7b" 13,
        part "return_statement" 15 30 none [
          token "return" 15,
          part "arrow_function" 22 29 none [
            part "formal_parameters" 22 24 (some "parameters") [token "(" 22, token ")" 23],
            token "=>" 25,
            part "number" 28 29 (some "body") []],
          token ";" 29],
        token "\x7d" 31]]]

def nestedSteps : List Step :=
  (ofSource "app".toList nestedSource nestedTree).history

def nestedInner : Occurrence :=
  ⟨[1, 1, 3, 0], ⟨.function, ⟨22, 29⟩, none, none⟩⟩

/-- The fourth step evaluates the inner function, to the value 1. -/
theorem created_nested : Created (siteOf nestedSource nestedTree) "app".toList nestedSteps
    (some nestedInner) 1 := by
  have site : siteOf nestedSource nestedTree =
      ⟨⟨nestedSource, tokensOf nestedSource nestedTree⟩, 0⟩ := by
    rw [siteOf, streamOf_eq_of_sorted (by decide +kernel)]
  have fourth : nestedSteps.take 3 ++ [.create ModelType.function (some nestedInner)] =
        nestedSteps.take 4 ∧
      (ModuleDocs.ofSteps (siteOf nestedSource nestedTree) "app".toList
        (nestedSteps.take 3)).store.nextId = 1 := by
    simp only [nestedSteps, ofSource_eq, site]
    decide +kernel
  exact ⟨nestedSteps.take 3, ModelType.function, fourth.1 ▸ List.take_prefix 4 nestedSteps,
    fourth.2⟩

/-- The inner function has no return statement and is given the value of its body. -/
theorem framed_and_returned_nested :
    nestedInner.node.kind = .function ∧
      Created (siteOf nestedSource nestedTree) "app".toList nestedSteps (some nestedInner) 1 ∧
      ∃ body value, nestedTree.expressionBody? nestedInner.place = some body ∧
        nestedSteps.filterMap (Step.returned? 1) =
          nestedSteps.filterMap (Step.returnedIn? nestedTree nestedInner.place) ++ [value] ∧
        BodyReturned (siteOf nestedSource nestedTree) "app".toList nestedSource nestedTree
          nestedSteps nestedInner body 1 value := by
  have expression : (nestedTree.expressionBody? nestedInner.place).isSome := by decide
  obtain ⟨body, found⟩ := Option.isSome_iff_exists.mp expression
  have returned := (framed_and_returned "app".toList nestedSource nestedTree).2.1 nestedInner 1
    rfl created_nested
  rw [found] at returned
  obtain ⟨value, given⟩ := returned
  exact ⟨rfl, created_nested, body, value, found, given⟩

/-- A call with a return statement among its arguments. -/
def listedSource : Text :=
  "function f() \x7b g(return 1); \x7d\n".toList

/-- A tree of `listedSource` in which the list of arguments has the type of an object literal. -/
def listedTree : Tree :=
  part "program" 0 30 none [
    part "function_declaration" 0 29 none [
      token "function" 0,
      part "identifier" 9 10 (some "name") [],
      part "formal_parameters" 10 12 (some "parameters") [token "(" 10, token ")" 11],
      part "statement_block" 13 29 (some "body") [
        token "\x7b" 13,
        part "expression_statement" 15 27 none [
          part "call_expression" 15 26 none [
            part "identifier" 15 16 (some "function") [],
            part "object" 16 26 (some "arguments") [
              token "(" 16,
              part "return_statement" 17 25 none [
                token "return" 17,
                part "number" 24 25 none []],
              token ")" 25]],
          token ";" 26],
        token "\x7d" 28]]]

def listedSteps : List Step :=
  (ofSource "app".toList listedSource listedTree).history

/-- Whether a node is documented in the frame of the nearest node around it that has the type of a
literal. -/
def isFramedByNearest (root : Tree) : Step → Bool
  | .document here _ frame => root.nearest? here.place = frame.map (·.here.place)
  | _ => true

/-- A list of arguments is no literal, whatever its type: the return statement in it is documented
in the frame of the function, and the function is given its value. -/
theorem framed_beyond_list :
    ¬ (∀ here value frame, Step.document here value frame ∈ listedSteps →
        listedTree.nearest? here.place = frame.map (·.here.place)) ∧
      listedTree.nearest? [1, 1, 0, 1, 3, 0] = some [1, 0, 1, 3, 0] ∧
      listedTree.enclosing? [1, 1, 0, 1, 3, 0] = some [0] ∧
      listedSteps.filterMap (Step.returnedIn? listedTree [0]) = [1] ∧
      listedSteps.filterMap (Step.returned? 0) = [1] := by
  have site : siteOf listedSource listedTree =
      ⟨⟨listedSource, tokensOf listedSource listedTree⟩, 0⟩ := by
    rw [siteOf, streamOf_eq_of_sorted (by decide +kernel)]
  have framed : listedSteps.all (isFramedByNearest listedTree) = false ∧
      listedSteps.filterMap (Step.returnedIn? listedTree [0]) = [1] ∧
      listedSteps.filterMap (Step.returned? 0) = [1] := by
    simp only [listedSteps, ofSource_eq, site]
    decide +kernel
  refine ⟨fun all => ?_, by decide +kernel, by decide +kernel, framed.2⟩
  refine absurd (List.all_eq_true.mpr fun step mem => ?_) (Bool.eq_false_iff.mp framed.1)
  cases step with
  | document here value frame => exact decide_eq_true (all here value frame mem)
  | _ => rfl

end Walk

end CommentDocs
