import CommentDocs.Proofs.Module.Evaluating
import CommentDocs.Proofs.Module.Order
import CommentDocs.Proofs.Module.Parameters

/-!
# Names share one scope

The names of a module are in one scope, whichever function publishes them, and parameters are not in
it. So a name in the body of a function comes to the value that was last published under it, in the
function or before it, and also if the function has a parameter of that name. A name under which
nothing was published comes to a new value, and never to a parameter.
-/

namespace CommentDocs

open Binding Syntax

namespace ModuleDocs

namespace Step

def published? (name : Text) : Step → Option ValueId
  | .publish key value => if key = name then some value else none
  | _ => none

/-- The value that a step publishes, binds as a property or gives as a return. -/
def given? : Step → Option ValueId
  | .publish _ value => some value
  | .setProperty _ _ value => some value
  | .appendReturn _ value _ => some value
  | _ => none

end Step

def lastPublished? (name : Text) (steps : List Step) : Option ValueId :=
  (steps.filterMap (Step.published? name)).getLast?

theorem lastPublished?_append (name : Text) (earlier later : List Step) :
    lastPublished? name (earlier ++ later) =
      (lastPublished? name later).or (lastPublished? name earlier) := by
  rw [lastPublished?, List.filterMap_append, List.getLast?_append]
  rfl

theorem lastPublished?_of_silent {name : Text} {step : Step} (silent : step.published? name = none)
    (steps : List Step) : lastPublished? name (step :: steps) = lastPublished? name steps := by
  rw [lastPublished?, List.filterMap_cons_none silent]
  rfl

/-- A name in scope is bound to the value that was last published under it. -/
theorem lookup?_ofSteps {site : Site} (own : site.scope = 0) (moduleId name : Text)
    (steps : List Step) :
    (ofSteps site moduleId steps).store.lookup? site.scope name = lastPublished? name steps := by
  induction steps using List.reverseRecOn with
  | nil =>
    have unbound : (ofSteps site moduleId []).store.scopes = [{ bindings := {} }] := rfl
    rw [own, lookup?_of_scopes unbound]
    rfl
  | append_singleton steps step ih =>
    rw [ofSteps_concat, lastPublished?_append, ← ih]
    by_cases binds : ∃ key target, step = .publish key target
    · obtain ⟨key, target, rfl⟩ := binds
      obtain ⟨bindings, scopes, -⟩ := scopes_ofSteps site moduleId steps
      have bound : ((ofSteps site moduleId steps).apply site (.publish key target)).store.scopes =
          [{ bindings := bindings.put key target }] := by
        simp [apply, mapStore, Store.setVariable, scopes, own]
      rw [own, lookup?_of_scopes bound, lookup?_of_scopes scopes, Table.get?_put]
      by_cases same : key = name
      · simp [lastPublished?, Step.published?, same]
      · simp [lastPublished?, Step.published?, same, eq_comm]
    · have quiet : ∀ key target, step ≠ .publish key target :=
        fun key target same => binds ⟨key, target, same⟩
      have silent : step.published? name = none := by
        cases step with
        | publish key target => exact absurd rfl (quiet key target)
        | _ => rfl
      rw [Store.lookup?_congr (scopes_apply site quiet _), lastPublished?_of_silent silent]
      rfl

end ModuleDocs

namespace Walk

open ModuleDocs (Step lastPublished?)

variable {site : Site} {moduleId source : Text} {root : Tree} {history steps : List Step}
variable {program : List (Occurrence × Option Construct)}
variable {expression : Option Construct} {value : ValueId} {step : Step}

theorem isQuiet_of_isUse (use : step.isUse) : step.isQuiet := by
  cases step <;> first | rfl | cases use

theorem Evaluated.settled {frame : Option Frame}
    (evaluated : Evaluated site moduleId steps frame expression value) :
    Settled site moduleId steps value := by
  cases evaluated with
  | name bound => exact .bound bound
  | literal spelled created last => exact .literal (last ▸ created.mono (List.prefix_append _ _))
  | new last fresh plain unbound =>
    exact .new last (fun _ none => absurd none List.not_mem_nil) fresh

/-- A value that an expression has come to is settled while it is used. -/
theorem Traced.settled (traced : Traced site moduleId steps expression value) :
    Settled site moduleId steps value := by
  obtain ⟨evaluated, uses, frame, rfl, all, come⟩ := traced
  induction uses using List.reverseRecOn with
  | nil =>
    rw [List.append_nil]
    exact come.settled
  | append_singleton uses step ih =>
    rw [← List.append_assoc]
    refine (ih fun other mem => all other (List.mem_append_left _ mem)).concat (isQuiet_of_isUse ?_)
    exact all step (List.mem_append_right _ List.mem_cons_self)

/-- What is used was never a parameter, and will not be one. -/
theorem Traced.noParameter (justified : Lawful (Justified site moduleId program) history)
    (orderly : Lawful (Orderly site moduleId source root) history)
    (traced : Traced site moduleId steps expression value) (taken : steps ++ [step] <+: history)
    (given : step.given? = some value) : NoParameter history value := by
  cases step with
  | publish name target =>
    cases given
    exact noParameter_of_published justified
      (taken.subset (List.mem_append_right _ List.mem_cons_self))
  | setProperty holder key target =>
    exact traced.settled.noParameter orderly justified taken rfl
  | appendReturn function target statement =>
    exact traced.settled.noParameter orderly justified taken rfl
  | _ => cases given

/-- A value that is given by a step is that of a function that declares itself, or an expression has
come to it. -/
theorem Accounted.declared_or_given (accounted : Accounted site moduleId source root steps step)
    (given : step.given? = some value) :
    (∃ name there, step = .publish name value ∧ Created site moduleId steps (some there) value) ∨
      Given site moduleId source root steps step value := by
  cases step with
  | publish name target =>
    cases given
    refine accounted.imp_left ?_
    rintro ⟨there, created, -⟩
    exact ⟨name, there, rfl, created⟩
  | setProperty holder key target =>
    cases given
    exact .inr accounted
  | appendReturn function target statement =>
    cases given
    exact .inr accounted
  | _ => cases given

/-- Uses follow the creation of a function only if the evaluation does. -/
theorem entered_of_uses {evaluated uses before : List Step} {type : Text} {here : Option Occurrence}
    (all : ∀ step ∈ uses, step.isUse)
    (entered : before ++ [.create type here] <+: evaluated ++ uses) :
    before ++ [.create type here] <+: evaluated := by
  induction uses using List.reverseRecOn with
  | nil => rwa [List.append_nil] at entered
  | append_singleton uses step ih =>
    rw [← List.append_assoc] at entered
    rcases List.prefix_concat_iff.mp entered with last | earlier
    · obtain rfl := List.singleton_inj.mp (List.append_inj' last rfl).2
      cases all _ (List.mem_append_right _ List.mem_cons_self)
    · exact ih (fun other mem => all other (List.mem_append_left _ mem)) earlier

/-- A published name comes to its value, without any step. -/
theorem run_valueOf_of_lookup? {name : Text} {walk : Walk}
    (bound : walk.docs.store.lookup? site.scope name = some value) (parts : List Construct)
    (visited : StateM Walk (Option ValueId)) :
    (valueOf site (.identifier name parts) visited).run walk = (value, walk) := by
  have known : known? site walk.docs.store (.identifier name parts) = some value := bound
  simp only [valueOf, Walk.current, StateT.run_bind, StateT.run_get, pure_bind, StateT.run_pure,
    known]
  rfl

/-- The value that an evaluated name came to: what was last published under it in a function, or
before the function was entered. Only if nothing was published when its evaluation started, it is a
new value. -/
def NameComesTo (site : Site) (moduleId : Text) (before inside : List Step) (entry : Step)
    (name : Text) (value : ValueId) : Prop :=
  (lastPublished? name inside).or (lastPublished? name before) = some value ∨
    Created site moduleId (before ++ entry :: inside) none value ∧
      ∃ start, start <+: before ++ entry :: inside ∧ lastPublished? name start = none

theorem lastPublished?_entered {before inside : List Step} {type : Text} {here : Option Occurrence}
    (name : Text) : lastPublished? name (before ++ .create type here :: inside) =
      (lastPublished? name inside).or (lastPublished? name before) := by
  rw [ModuleDocs.lastPublished?_append]
  exact congrArg (Option.or · _) (ModuleDocs.lastPublished?_of_silent rfl inside)

theorem Evaluated.nameComesTo (own : site.scope = 0) {before inside : List Step} {type : Text}
    {here : Option Occurrence} {frame : Option Frame} {name : Text} {parts : List Construct}
    (evaluated : Evaluated site moduleId (before ++ .create type here :: inside) frame
      (some (.identifier name parts)) value) :
    NameComesTo site moduleId before inside (.create type here) name value := by
  cases evaluated with
  | name bound =>
    rw [ModuleDocs.lookup?_ofSteps own, lastPublished?_entered] at bound
    exact .inl bound
  | literal spelled created last => cases spelled
  | new last fresh plain unbound =>
    obtain ⟨start, started, none⟩ := unbound name parts rfl
    rw [ModuleDocs.lookup?_ofSteps own] at none
    rw [NameComesTo, last]
    exact .inr ⟨⟨_, _, List.prefix_refl _, fresh⟩, start, started.trans (List.prefix_append _ _),
      none⟩

/-- After a function has been entered, a name comes to the value that was last published under it in
the function or before, whatever the parameters of the function are called. And whatever is
published, bound as a property or given as a return from then on is a function that declares itself
or the value of an expression at the node of the step. If that expression is a name, it has come to
the value last published under it or, if there was none, to a new value. It is never a parameter. -/
theorem names_share_scope (moduleId source : Text) (tree : Tree) (before : List Step)
    (here : Occurrence) :
    let site := siteOf source tree
    let history := (ofSource moduleId source tree).history
    let entry := Step.create ModelType.function (some here)
    (∀ inside name value parts visited,
      (lastPublished? name inside).or (lastPublished? name before) = some value →
      let walk : Walk := ⟨ModuleDocs.ofSteps site moduleId (before ++ entry :: inside),
        before ++ entry :: inside⟩
      (valueOf site (.identifier name parts) visited).run walk = (value, walk)) ∧
    ∀ steps step value, before ++ [entry] <+: steps → steps ++ [step] <+: history →
      step.given? = some value →
      (∃ name there, step = .publish name value ∧ Created site moduleId steps (some there) value) ∨
      ∃ expression inside frame, tree.Gives source step expression ∧
        before ++ entry :: inside <+: steps ∧
        Evaluated site moduleId (before ++ entry :: inside) frame expression value ∧
        NoParameter history value ∧ ∀ name parts, expression = some (.identifier name parts) →
          NameComesTo site moduleId before inside entry name value := by
  intro site history entry
  have justified := (sound_ofSource moduleId source tree).lawful
  have orderly := (closing_ofSource moduleId source tree).1.lawful
  have accounted := (evaluation_ofSource moduleId source tree).1.lawful
  constructor
  · intro inside name value parts visited published walk
    apply run_valueOf_of_lookup?
    rw [ModuleDocs.lookup?_ofSteps rfl, lastPublished?_entered]
    exact published
  · intro steps step value later taken given
    refine ((accounted.of_point taken).declared_or_given given).imp_right ?_
    rintro ⟨expression, gives, traced⟩
    have noParameter := traced.noParameter justified orderly taken given
    obtain ⟨evaluated, uses, frame, rfl, all, come⟩ := traced
    obtain ⟨inside, rfl⟩ := entered_of_uses all later
    rw [← List.append_cons] at come ⊢
    refine ⟨expression, inside, frame, gives, List.prefix_append _ _, come, noParameter, ?_⟩
    rintro name parts rfl
    exact come.nameComesTo rfl

/-- A function with a parameter that has the name of a variable. -/
def shadowingSource : Text :=
  "var x = \x7b\x7d;\nfunction f(x) \x7b return x; \x7d\n".toList

def shadowingTree : Tree :=
  part "program" 0 40 none [
    part "variable_declaration" 0 11 none [
      token "var" 0,
      part "variable_declarator" 4 10 none [
        part "identifier" 4 5 (some "name") [],
        token "=" 6,
        part "object" 8 10 (some "value") [token "\x7b" 8, token "\x7d" 9]],
      token ";" 10],
    part "function_declaration" 12 39 none [
      token "function" 12,
      part "identifier" 21 22 (some "name") [],
      part "formal_parameters" 22 25 (some "parameters") [
        token "(" 22,
        part "identifier" 23 24 none [],
        token ")" 24],
      part "statement_block" 26 39 (some "body") [
        token "\x7b" 26,
        part "return_statement" 28 37 none [
          token "return" 28,
          part "identifier" 35 36 none [],
          token ";" 36],
        token "\x7d" 38]]]

def shadowingFunction : Occurrence :=
  ⟨[1], ⟨.function, ⟨12, 39⟩, some ⟨26, 39⟩, none⟩⟩

def shadowingReturn : Located :=
  ⟨[1, 3, 1], part "return_statement" 28 37 none [
    token "return" 28,
    part "identifier" 35 36 none [],
    token ";" 36]⟩

def shadowingSteps : List Step :=
  (ofSource "app".toList shadowingSource shadowingTree).history

theorem siteOf_shadowing : siteOf shadowingSource shadowingTree =
    ⟨⟨shadowingSource, tokensOf shadowingSource shadowingTree⟩, 0⟩ := by
  rw [siteOf, streamOf_eq_of_sorted (by decide +kernel)]

/-- What the return statement of the function gives is what the variable was bound to before. -/
theorem names_share_scope_shadowing :
    let entry := Step.create ModelType.function (some shadowingFunction)
    let before := shadowingSteps.take 4
    let step := Step.appendReturn 1 0 (some (shadowingReturn.occurrence shadowingSource))
    (lastPublished? "x".toList []).or (lastPublished? "x".toList before) = some 0 ∧
      (let walk : Walk := ⟨ModuleDocs.ofSteps (siteOf shadowingSource shadowingTree) "app".toList
        (before ++ [entry]), before ++ [entry]⟩
      (valueOf (siteOf shadowingSource shadowingTree) (.identifier "x".toList []) (pure none)).run
        walk = (0, walk)) ∧
      before ++ [entry] <+: shadowingSteps.take 10 ∧
      shadowingSteps.take 10 ++ [step] <+: shadowingSteps ∧ step.given? = some 0 ∧
      ∃ expression inside frame, shadowingTree.Gives shadowingSource step expression ∧
        before ++ entry :: inside <+: shadowingSteps.take 10 ∧
        Evaluated (siteOf shadowingSource shadowingTree) "app".toList (before ++ entry :: inside)
          frame expression 0 ∧
        NoParameter shadowingSteps 0 := by
  intro entry before step
  have published :
      (lastPublished? "x".toList []).or (lastPublished? "x".toList before) = some 0 := by
    simp only [before, shadowingSteps, ofSource_eq, siteOf_shadowing]
    decide +kernel
  have entered : before ++ [entry] <+: shadowingSteps.take 10 := by
    simp only [before, shadowingSteps, ofSource_eq, siteOf_shadowing]
    decide +kernel
  have taken : shadowingSteps.take 10 ++ [step] <+: shadowingSteps := by
    simp only [shadowingSteps, ofSource_eq, siteOf_shadowing]
    decide +kernel
  have shared := names_share_scope "app".toList shadowingSource shadowingTree before
    shadowingFunction
  refine ⟨published, shared.1 [] _ _ [] _ published, entered, taken, rfl, ?_⟩
  obtain ⟨name, there, same, -⟩ | ⟨expression, inside, frame, gives, later, come, free, -⟩ :=
    shared.2 _ step 0 entered taken rfl
  · exact nomatch (same : Step.appendReturn 1 0 _ = .publish name 0)
  · exact ⟨expression, inside, frame, gives, later, come, free⟩

/-- In a function with a parameter, what a return statement gives for the name of that parameter was
not published under the name before the function was entered. -/
def ParametersShadow (moduleId source : Text) (tree : Tree) : Prop :=
  ∀ before inside here function value (statement : Located) name parts,
    before ++ .create ModelType.function (some here) :: inside ++
      [.appendReturn function value (some (statement.occurrence source))] <+:
        (ofSource moduleId source tree).history →
    statement.At tree → here.place <:+ statement.place →
    statement.construct source =
      .returning (statement.occurrence source) (some (.identifier name parts)) →
    name ∈ (tree.parametersAt source here.place).map (·.name) →
    Step.publish name value ∉ before

/-- Parameters do not shadow. The function returns the value of the variable, not its parameter. -/
theorem not_parametersShadow_shadowing :
    ¬ ParametersShadow "app".toList shadowingSource shadowingTree := by
  intro shadow
  have taken : shadowingSteps.take 4 ++ .create ModelType.function (some shadowingFunction) ::
      (shadowingSteps.take 10).drop 5 ++
        [.appendReturn 1 0 (some (shadowingReturn.occurrence shadowingSource))] <+:
          shadowingSteps := by
    simp only [shadowingSteps, ofSource_eq, siteOf_shadowing]
    decide +kernel
  have published : Step.publish "x".toList 0 ∈ shadowingSteps.take 4 := by
    simp only [shadowingSteps, ofSource_eq, siteOf_shadowing]
    decide +kernel
  have named : "x".toList ∈
      (shadowingTree.parametersAt shadowingSource shadowingFunction.place).map (·.name) := by
    decide +kernel
  exact shadow _ _ shadowingFunction 1 0 shadowingReturn _ [] taken rfl (by decide) rfl named
    published

end Walk

end CommentDocs
