import CommentDocs.Proofs.Binding.ParameterComment
import CommentDocs.Proofs.Module.Isolation
import CommentDocs.Proofs.Module.Once
import CommentDocs.Proofs.Syntax.Leaves

/-!
# Comments before parameters

The type of a parameter stands in a block comment right before it. A comment is looked up by
position, in the tokens of the whole source and not of one function, so it has to be shown that it
is not found twice. An identifier that is a leaf is a token itself: the comment is the token right
before that one, and from any later parameter it is hidden by it.
-/

namespace CommentDocs

open Binding Syntax

namespace Syntax

/-- An identifier of a tree that is a leaf and not empty. -/
structure IdentifierLeaf (root : Tree) (located : Located) : Prop extends LeafAt root located where
  identifier : located.tree.type = identifierType

/-- An identifier that is a leaf is a token of its own. -/
theorem IdentifierLeaf.leafToken_mem {source : Text} {root : Tree} {located : Located}
    (leaf : IdentifierLeaf root located) (placed : Placed source root.leaves) :
    leafToken source located.tree ∈ (streamOf source root).tokens := by
  refine (partition_streamOf source root placed).leafToken_mem leaf.mem_leaves ?_
  rw [Tree.isComment, leaf.identifier]
  decide

end Syntax

namespace Walk

open ModuleDocs (Step)

variable {source : Text} {tree : Tree} {one other : Located} {comment : Token}

/-- The block comment before a node is the nearest token before it. -/
theorem nearest_of_inlineToken? (placed : Syntax.Placed source tree.leaves) {node : Node}
    (found : (siteOf source tree).inlineToken? node = some comment) :
    IsNearestBefore (streamOf source tree).tokens node.span.start comment := by
  have first := (Option.filter_eq_some_iff.mp found).1
  rw [Site.preceding?, siteOf, head?_before_streamOf placed] at first
  exact (partition_streamOf source tree placed).inSequence.getLast?_filter_eq_some_iff.mp first

/-- The block comment before an identifier is the token right before that of the identifier. -/
theorem adjacent_of_inlineToken? (placed : Syntax.Placed source tree.leaves)
    (leaf : IdentifierLeaf tree one)
    (found : (siteOf source tree).inlineToken? (one.tree.toNode source) = some comment) :
    ∃ before after, (siteOf source tree).stream.tokens =
      before ++ comment :: leafToken source one.tree :: after := by
  obtain ⟨before, after, split⟩ := List.append_of_mem (leaf.leafToken_mem placed)
  have sequence := (partition_streamOf source tree placed).inSequence
  have first := (Option.filter_eq_some_iff.mp found).1
  rw [Site.preceding?, siteOf, head?_before_streamOf placed, split] at first
  rw [split] at sequence
  -- the node starts where its token does, so the tokens before the node are those before its token
  obtain ⟨earlier, rfl⟩ := List.getLast?_eq_some_iff.mp
    ((congrArg List.getLast? sequence.filter_stop_le).symm.trans first)
  exact ⟨earlier, after, by rw [siteOf, split, List.append_assoc]; rfl⟩

/-- An identifier hides the block comment before it from all that starts after it. -/
theorem not_shared_of_before (placed : Syntax.Placed source tree.leaves)
    (leaf : IdentifierLeaf tree one) (before : one.tree.stop ≤ other.tree.start)
    (found : (siteOf source tree).inlineToken? (one.tree.toNode source) = some comment) :
    (siteOf source tree).inlineToken? (other.tree.toNode source) ≠ some comment := by
  intro again
  have own := leaf.leafToken_mem placed
  have width : (one.tree.span source).start < (one.tree.span source).stop :=
    (partition_streamOf source tree placed).wide _ own
  have ended : comment.span.stop ≤ (one.tree.span source).start :=
    (nearest_of_inlineToken? placed found).before
  have passed : (one.tree.span source).stop ≤ (other.tree.span source).start :=
    charIndex_mono source before
  have late : (one.tree.span source).stop ≤ comment.span.stop :=
    (nearest_of_inlineToken? placed again).latest _ own passed
  omega

/-- Two identifiers that are leaves have different block comments before them. -/
theorem eq_of_inlineToken? (placed : Syntax.Placed source tree.leaves)
    (leaf : IdentifierLeaf tree one) (next : IdentifierLeaf tree other)
    (found : (siteOf source tree).inlineToken? (one.tree.toNode source) = some comment)
    (again : (siteOf source tree).inlineToken? (other.tree.toNode source) = some comment) :
    one.place = other.place := by
  by_contra differ
  rcases leaf.apart placed next.toLeafAt differ with before | after
  · exact not_shared_of_before placed leaf before found again
  · exact not_shared_of_before placed next after again found

/-- If the leaves of a tree are ranges between characters, one after the other, then a block comment
belongs to one parameter only: it is the token right before that of the identifier, different
identifiers have different ones, whichever functions they are parameters of, and no two steps of a
walk document an identifier by the same one. -/
theorem inlineComments_apart (moduleId source : Text) (tree : Tree)
    (placed : Syntax.Placed source tree.leaves) :
    let site := siteOf source tree
    let history := (ofSource moduleId source tree).history
    (∀ node, site.inlineComment? node = (site.inlineToken? node).map (·.text)) ∧
      (∀ one comment, IdentifierLeaf tree one →
        site.inlineToken? (one.tree.toNode source) = some comment →
          comment.kind = .blockComment ∧ ∃ before after, site.stream.tokens =
            before ++ comment :: leafToken source one.tree :: after) ∧
      (∀ one other comment, IdentifierLeaf tree one → IdentifierLeaf tree other →
        one.place ≠ other.place →
          site.inlineToken? (one.tree.toNode source) = some comment →
            site.inlineToken? (other.tree.toNode source) ≠ some comment) ∧
      ∀ before after one other value owner frame around comment,
        IdentifierLeaf tree one → IdentifierLeaf tree other →
          before ++ [.document (one.occurrence source) value frame] <+: history →
            after ++ [.document (other.occurrence source) owner around] <+: history →
              site.inlineToken? (one.occurrence source).node = some comment →
                site.inlineToken? (other.occurrence source).node = some comment →
                  before = after ∧ value = owner := by
  intro site history
  refine ⟨site.inlineComment?_eq, fun one comment leaf found => ⟨?_, ?_⟩, ?_, ?_⟩
  · exact of_decide_eq_true (Option.filter_eq_some_iff.mp found).2
  · exact adjacent_of_inlineToken? placed leaf found
  · intro one other comment leaf next differ found again
    exact differ (eq_of_inlineToken? placed leaf next found again)
  · intro before after one other value owner frame around comment leaf next first second found again
    have same := eq_of_inlineToken? placed leaf next found again
    have node : one.tree = other.tree := by
      have there := next.there
      rw [Located.At, ← same, leaf.there] at there
      exact Option.some.inj there
    have documented : Step.documented? (.document (one.occurrence source) value frame) =
        Step.documented? (.document (other.occurrence source) owner around) := by
      simp only [Step.documented?, Located.occurrence, same, node]
    obtain ⟨earlier, step⟩ := eq_of_nodup_filterMap (nodup_documented_ofSource moduleId source tree)
      first second documented rfl
    simp only [Step.document.injEq] at step
    exact ⟨earlier, step.2.1⟩

/-- Two functions, one in the other, each with a comment before its parameter. -/
def curriedSource : Text :=
  "function f(/*A*/ a) \x7b return (/*B?*/ b) => a; \x7d".toList

def curriedTree : Tree :=
  part "program" 0 47 none [
    part "function_declaration" 0 47 none [
      token "function" 0,
      part "identifier" 9 10 (some "name") [],
      part "formal_parameters" 10 19 (some "parameters") [
        token "(" 10,
        part "comment" 11 16 none [],
        part "identifier" 17 18 none [],
        token ")" 18],
      part "statement_block" 20 47 (some "body") [
        token "\x7b" 20,
        part "return_statement" 22 45 none [
          token "return" 22,
          part "arrow_function" 29 44 none [
            part "formal_parameters" 29 39 (some "parameters") [
              token "(" 29,
              part "comment" 30 36 none [],
              part "identifier" 37 38 none [],
              token ")" 38],
            token "=>" 40,
            part "identifier" 43 44 (some "body") []],
          token ";" 44],
        token "\x7d" 46]]]

def outerParameter : Located :=
  ⟨[2, 2, 0], part "identifier" 17 18 none []⟩

def innerParameter : Located :=
  ⟨[2, 0, 1, 1, 3, 0], part "identifier" 37 38 none []⟩

theorem siteOf_curried : siteOf curriedSource curriedTree =
    ⟨⟨curriedSource, tokensOf curriedSource curriedTree⟩, 0⟩ := by
  rw [siteOf, streamOf_eq_of_sorted (by decide +kernel)]

theorem inlineComments_apart_curried :
    Syntax.Placed curriedSource curriedTree.leaves ∧
      IdentifierLeaf curriedTree outerParameter ∧ IdentifierLeaf curriedTree innerParameter ∧
      [outerParameter, innerParameter].map
          (fun one =>
            (siteOf curriedSource curriedTree).inlineToken? (one.tree.toNode curriedSource)) =
        [some ⟨.blockComment, "A".toList, ⟨11, 16⟩⟩, some ⟨.blockComment, "B?".toList, ⟨30, 36⟩⟩] ∧
      (∃ before after, (siteOf curriedSource curriedTree).stream.tokens = before ++
        ⟨.blockComment, "B?".toList, ⟨30, 36⟩⟩ ::
          leafToken curriedSource innerParameter.tree :: after) ∧
      ((ofSource "app".toList curriedSource curriedTree).history.filterMap Step.documented?).count
        (innerParameter.place, .identifier) = 1 ∧
      ∀ before after value owner frame around,
        before ++ [.document (innerParameter.occurrence curriedSource) value frame] <+:
          (ofSource "app".toList curriedSource curriedTree).history →
        after ++ [.document (innerParameter.occurrence curriedSource) owner around] <+:
          (ofSource "app".toList curriedSource curriedTree).history → before = after := by
  have placed : Syntax.Placed curriedSource curriedTree.leaves := by decide +kernel
  have outer : IdentifierLeaf curriedTree outerParameter := ⟨⟨rfl, rfl, by decide⟩, rfl⟩
  have inner : IdentifierLeaf curriedTree innerParameter := ⟨⟨rfl, rfl, by decide⟩, rfl⟩
  have tokens : [outerParameter, innerParameter].map
      (fun one => (siteOf curriedSource curriedTree).inlineToken? (one.tree.toNode curriedSource)) =
        [some ⟨.blockComment, "A".toList, ⟨11, 16⟩⟩,
          some ⟨.blockComment, "B?".toList, ⟨30, 36⟩⟩] := by
    rw [siteOf_curried]
    decide +kernel
  obtain ⟨-, adjacent, -, once⟩ :=
    inlineComments_apart "app".toList curriedSource curriedTree placed
  have found := (List.cons.inj (List.cons.inj tokens).2).1
  refine ⟨placed, outer, inner, tokens, (adjacent innerParameter _ inner found).2, ?_, ?_⟩
  · rw [ofSource_eq, siteOf_curried]
    decide +kernel
  · intro before after value owner frame around first second
    exact (once _ _ _ _ _ _ _ _ _ inner inner first second found found).1

end Walk

end CommentDocs
