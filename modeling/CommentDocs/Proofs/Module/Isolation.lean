import CommentDocs.Proofs.Module.Visiting

/-!
# How far documentation reaches

A published value is shared by everything that names it. Its documentation is still isolated
from what merely mentions the name: a comment reaches the value through its identity alone.
Either the comment documents a node whose own value it is, a literal or a member or return
statement with the literal or a bare name as its whole expression; or it is the body comment
of a function or an object literal that has the value as a property or as its first return.
Parameters are values of their own and never lead to a published one.
-/

namespace CommentDocs.Walk

open Binding Syntax
open ModuleDocs (Step)

section

variable (site : Site) (moduleId : Text) (program : List (Occurrence × Option Construct))

/-- The ways in which documenting a node with the value `owner` reaches a published value. -/
inductive Reaches (steps : List Step) (here : Occurrence) (owner value : ValueId) : Prop
  /-- The node is the literal that was evaluated to the value. -/
  | literal (own : owner = value) (created : Created site moduleId steps (some here) value)
  /-- The whole expression of the node is that literal. -/
  | literalExpression {construct : Construct} {there : Occurrence} (own : owner = value)
      (inside : (here, some construct) ∈ program) (spelled : construct.literal? = some there)
      (created : Created site moduleId steps (some there) value)
  /-- The whole expression of the node is a name that is bound to the value at that moment. -/
  | name {name : Text} {parts : List Construct} (own : owner = value)
      (inside : (here, some (.identifier name parts)) ∈ program)
      (bound : (ModuleDocs.ofSteps site moduleId steps).store.lookup? site.scope name = some value)
  /-- The body comment of the node has a key under which `owner` has the value as a property. -/
  | key {comment key : Text} (body : here.node.kind = .function ∨ here.node.kind = .object)
      (commented : site.bodyComment? here.node = some comment)
      (named : key ∈ (Comment.read comment none).entries.names)
      (bound : (ModuleDocs.ofSteps site moduleId steps).store.property? owner key = some value)
  /-- The body comment of the node documents a return, and `owner` returns the value first. -/
  | firstReturn {comment : Text} (body : here.node.kind = .function ∨ here.node.kind = .object)
      (commented : site.bodyComment? here.node = some comment)
      (documented : (Comment.read comment none).returns.isDocumented = true)
      (first : ((ModuleDocs.ofSteps site moduleId steps).store.returnsOf owner).head? = some value)

variable {site moduleId program} {steps : List Step}

/-- A published value is no parameter, so a key reaches it as a property. -/
theorem property?_of_documented? (lawful : Lawful (Justified site moduleId program) steps)
    {name : Text} {value : ValueId} (published : Step.publish name value ∈ steps)
    {owner : ValueId} {isFunction : Bool} {key : Text}
    (reached : (ModuleDocs.ofSteps site moduleId steps).store.documented? owner isFunction key =
      some value) :
    (ModuleDocs.ofSteps site moduleId steps).store.property? owner key = some value := by
  rw [Store.documented?_eq, Option.or_eq_some_iff] at reached
  rcases reached with parameter | property
  · split at parameter
    · have added := ModuleDocs.addParameter_mem_of_parameter? site moduleId parameter
      exact absurd added (noParameter_of_published lawful published owner key)
    · cases parameter
  · exact property.2

/-- A justified step that changes the documentation of a published value reaches it. -/
theorem reaches_of_changed (lawful : Lawful (Justified site moduleId program) steps)
    {step : Step} (justified : Justified site moduleId program steps step)
    {name : Text} {value : ValueId} (published : Step.publish name value ∈ steps)
    (changed : (ModuleDocs.ofSteps site moduleId (steps ++ [step])).store.doc? value ≠
      (ModuleDocs.ofSteps site moduleId steps).store.doc? value) :
    ∃ here owner frame, step = .document here owner frame ∧
      Reaches site moduleId program steps here owner value := by
  rw [ModuleDocs.ofSteps_concat] at changed
  obtain ⟨here, owner, frame, rfl, reached⟩ :=
    ModuleDocs.doc?_apply site (lt_nextId_of_published lawful published) changed
  refine ⟨here, owner, frame, rfl, ?_⟩
  rcases reached with rfl | ⟨comment, body, commented, ⟨key, named, reached⟩ | ⟨documented, first⟩⟩
  · rcases justified with created | ⟨expression, inside, stands⟩ | unpublished
    · exact .literal rfl created
    · cases stands with
      | name bound => exact .name rfl inside bound
      | literal spelled created => exact .literalExpression rfl inside spelled created
      | unpublished publishable unpublished => exact absurd published (unpublished name)
    · exact absurd published (unpublished name)
  · exact .key body commented named (property?_of_documented? lawful published reached)
  · exact .firstReturn body commented documented first

/-- Between two moments the documentation of a published value changes only where a comment
reaches it. -/
theorem exists_reaches_of_changed {between : List Step}
    (lawful : Lawful (Justified site moduleId program) (steps ++ between))
    {name : Text} {value : ValueId} (published : Step.publish name value ∈ steps)
    (changed : (ModuleDocs.ofSteps site moduleId (steps ++ between)).store.doc? value ≠
      (ModuleDocs.ofSteps site moduleId steps).store.doc? value) :
    ∃ before here owner frame after, between = before ++ .document here owner frame :: after ∧
      Reaches site moduleId program (steps ++ before) here owner value := by
  induction between using List.reverseRecOn with
  | nil => exact absurd (by rw [List.append_nil]) changed
  | append_singleton between step ih =>
    rw [← List.append_assoc] at lawful changed
    obtain ⟨lawful, justified⟩ := lawful.of_concat
    by_cases last :
      (ModuleDocs.ofSteps site moduleId (steps ++ between ++ [step])).store.doc? value =
        (ModuleDocs.ofSteps site moduleId (steps ++ between)).store.doc? value
    · rw [last] at changed
      obtain ⟨before, here, owner, frame, after, rfl, reached⟩ := ih lawful changed
      exact ⟨before, here, owner, frame, after ++ [step], by simp, reached⟩
    · obtain ⟨here, owner, frame, rfl, reached⟩ :=
        reaches_of_changed lawful justified (List.mem_append_left _ published) last
      exact ⟨between, here, owner, frame, [], rfl, reached⟩

end

def siteOf (source : Text) (tree : Tree) : Site :=
  ⟨streamOf source tree, 0⟩

theorem ofSource_eq (moduleId source : Text) (tree : Tree) :
    ofSource moduleId source tree =
      ((visitAll (siteOf source tree) none none (Construct.topLevel source tree)).run
        { docs := { moduleId } }).2 := rfl

/-- Every step of a walk through a source is justified. -/
theorem sound_ofSource (moduleId source : Text) (tree : Tree) :
    (ofSource moduleId source tree).Sound (siteOf source tree) moduleId
      (Justified (siteOf source tree) moduleId
        (expressionsOfList (Construct.topLevel source tree))) :=
  (provides_visitAll none none (Construct.topLevel source tree) (List.Subset.refl _)
    { docs := { moduleId } } ⟨rfl, .nil⟩ trivial).1

/-- Once a value has been published, its documentation changes only by comments that reach
it. The documentation of a module is what the steps of its walk come to, and in any stretch of
steps over which the documentation of the value changes there is such a comment. -/
theorem documentation_isolated (moduleId source : Text) (tree : Tree)
    {earlier between later : List Step}
    (run : (ofSource moduleId source tree).history = earlier ++ between ++ later)
    {name : Text} {value : ValueId} (published : Step.publish name value ∈ earlier)
    (changed :
      (ModuleDocs.ofSteps (siteOf source tree) moduleId (earlier ++ between)).store.doc? value ≠
        (ModuleDocs.ofSteps (siteOf source tree) moduleId earlier).store.doc? value) :
    ModuleDocs.ofSource moduleId source tree =
        ModuleDocs.ofSteps (siteOf source tree) moduleId (earlier ++ between ++ later) ∧
      ∃ before here owner frame after, between = before ++ .document here owner frame :: after ∧
        Reaches (siteOf source tree) moduleId (expressionsOfList (Construct.topLevel source tree))
          (earlier ++ before) here owner value := by
  obtain ⟨docs, lawful⟩ := sound_ofSource moduleId source tree
  rw [run] at docs lawful
  exact ⟨docs, exists_reaches_of_changed lawful.of_append published changed⟩

/-- A function and an object literal that share a value `V` published before them. -/
def sharedSource : Text :=
  ["var V = \x7b\x7d;", "function f() \x7b", "// returns: Number", "return V // String", ";",
    "\x7d", "var o = \x7b", "// m: [t] A", "m: V\x7d;"].flatMap fun line => line.toList ++ ['\n']

/-- A node that is one of the fixed words of the language. -/
def token (text : String) (start : Nat) : Tree :=
  .node text.toList start (start + text.length) false none []
/-- A node that is more than punctuation. -/
def part (type : String) (start stop : Nat) (field : Option String) (children : List Tree) : Tree :=
  .node type.toList start stop true (field.map String.toList) children
def sharedTree : Tree :=
  part "program" 0 98 none [
    part "variable_declaration" 0 11 none [
      token "var" 0,
      part "variable_declarator" 4 10 none [
        part "identifier" 4 5 (some "name") [],
        token "=" 6,
        part "object" 8 10 (some "value") [token "\x7b" 8, token "\x7d" 9]],
      token ";" 10],
    part "function_declaration" 12 68 none [
      token "function" 12,
      part "identifier" 21 22 (some "name") [],
      part "formal_parameters" 22 24 (some "parameters") [token "(" 22, token ")" 23],
      part "statement_block" 25 68 (some "body") [
        token "\x7b" 25,
        part "comment" 27 45 none [],
        part "return_statement" 46 66 none [
          token "return" 46,
          part "identifier" 53 54 none [],
          part "comment" 55 64 none [],
          token ";" 65],
        token "\x7d" 67]],
    part "variable_declaration" 69 97 none [
      token "var" 69,
      part "variable_declarator" 73 96 none [
        part "identifier" 73 74 (some "name") [],
        token "=" 75,
        part "object" 77 96 (some "value") [
          token "\x7b" 77,
          part "comment" 79 90 none [],
          part "pair" 91 95 none [
            part "property_identifier" 91 92 (some "key") [],
            token ":" 92,
            part "identifier" 94 95 (some "value") []],
          token "\x7d" 95]],
      token ";" 96]]

def sharedSteps : List Step :=
  (ofSource "app".toList sharedSource sharedTree).history

/-- The documentation of `V` after some of the steps. -/
def sharedDoc (count : Nat) : Option ValueDoc :=
  (ModuleDocs.ofSteps (siteOf sharedSource sharedTree) "app".toList
    (sharedSteps.take count)).store.doc? 0

theorem siteOf_shared :
    siteOf sharedSource sharedTree = ⟨⟨sharedSource, tokensOf sharedSource sharedTree⟩, 0⟩ := by
  rw [siteOf, streamOf_eq_of_sorted (by decide +kernel)]

/-- Between the fourth and the ninth step of the walk the return statement is documented, whose
expression is the name of `V`. -/
theorem documentation_isolated_return :
    (ofSource "app".toList sharedSource sharedTree).history =
        sharedSteps.take 4 ++ (sharedSteps.drop 4).take 5 ++ (sharedSteps.drop 4).drop 5 ∧
      Step.publish "V".toList 0 ∈ sharedSteps.take 4 ∧
      ∃ before here owner frame after,
        (sharedSteps.drop 4).take 5 = before ++ .document here owner frame :: after ∧
          Reaches (siteOf sharedSource sharedTree) "app".toList
            (expressionsOfList (Construct.topLevel sharedSource sharedTree))
            (sharedSteps.take 4 ++ before) here owner 0 := by
  have run : (ofSource "app".toList sharedSource sharedTree).history =
      sharedSteps.take 4 ++ (sharedSteps.drop 4).take 5 ++ (sharedSteps.drop 4).drop 5 := by
    rw [List.append_assoc, List.take_append_drop, List.take_append_drop, sharedSteps]
  obtain ⟨published, changed⟩ : Step.publish "V".toList 0 ∈ sharedSteps.take 4 ∧
      (ModuleDocs.ofSteps (siteOf sharedSource sharedTree) "app".toList
          (sharedSteps.take 4 ++ (sharedSteps.drop 4).take 5)).store.doc? 0 ≠
        (ModuleDocs.ofSteps (siteOf sharedSource sharedTree) "app".toList
          (sharedSteps.take 4)).store.doc? 0 := by
    simp only [sharedSteps, ofSource_eq, siteOf_shared]
    decide +kernel
  exact ⟨run, published, (documentation_isolated _ _ _ run published changed).2⟩

/-- A published value may be documented by other constructs: here a return statement, a
passage on returns in the body comment of another function, a member of an object literal and
the key of that member in the body comment of the literal. -/
theorem documentation_shared :
    Step.publish "V".toList 0 ∈ sharedSteps.take 4 ∧
      (sharedSteps.drop 4).filterMap (fun
        | .document here value _ => some (here.node.kind, value)
        | _ => none) = [(.returning, 0), (.function, 1), (.property, 0), (.object, 2)] ∧
      sharedDoc 4 = some {} ∧
      sharedDoc 9 = some { type := .text "String".toList } ∧
      sharedDoc 10 = some { type := .text "Number".toList } ∧
      sharedDoc 13 = some { type := .text "A".toList, tags := ["t".toList] } ∧
      sharedDoc 14 = some { type := .text "A".toList, tags := ["t".toList, "t".toList] } := by
  simp only [sharedDoc, sharedSteps, ofSource_eq, siteOf_shared]
  decide +kernel

end CommentDocs.Walk
