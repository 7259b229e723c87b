import CommentDocs.Proofs.Syntax.Partition

/-!
# The nearest token before a node

Tokens are looked up by bisection. In a list where the items that satisfy a test come first, the
search finds where the others begin. Tokens that stand one after the other end one after the other,
too, so those that end before a node come first in the stream and the last of them is the nearest.
-/

namespace CommentDocs.Syntax

section

variable {α : Type} {p : α → Bool} {items first second : List α}

/-- The search finds the end of the items that satisfy the test, if the range holds it. -/
theorem bisect_append (yes : ∀ item ∈ first, p item = true)
    (no : ∀ item ∈ second, p item = false) {low high : Nat} (lower : low ≤ first.length)
    (upper : first.length ≤ high) (most : high ≤ (first ++ second).length) :
    bisect p (first ++ second) low high = first.length := by
  induction low, high using bisect.induct p (first ++ second) with
  | case1 low high wide middle item found holds ih =>
    have inFirst : middle < first.length := by
      refine Nat.lt_of_not_le fun past => ?_
      rw [List.getElem?_append_right past] at found
      rw [no item (List.mem_of_getElem? found)] at holds
      cases holds
    rw [bisect, if_pos wide]
    simp only [middle, found, holds, if_true] at inFirst ih ⊢
    exact ih inFirst upper most
  | case2 low high wide middle item found fails ih =>
    have inSecond : first.length ≤ middle := by
      refine Nat.le_of_not_lt fun before => fails ?_
      rw [List.getElem?_append_left before] at found
      exact yes item (List.mem_of_getElem? found)
    have inside : middle ≤ high := by omega
    rw [bisect, if_pos wide]
    simp only [middle, found, fails] at inSecond ih ⊢
    exact ih lower inSecond (Nat.le_trans inside most)
  | case3 low high wide middle missing =>
    rw [List.getElem?_eq_none_iff] at missing
    omega
  | case4 low high narrow =>
    rw [bisect, if_neg narrow]
    omega

/-- Where a test fails for good, nothing after a failure satisfies it. -/
theorem filter_eq_nil_of_fails {item : α} {rest : List α}
    (sorted : (item :: rest).Pairwise fun item next => p next → p item) (fails : p item = false) :
    rest.filter p = [] := by
  refine List.filter_eq_nil_iff.mpr fun next mem later => ?_
  rw [(List.pairwise_cons.mp sorted).1 next mem later] at fails
  cases fails

/-- Where a test fails for good, the items that satisfy it come first. -/
theorem filter_append_filter_not (sorted : items.Pairwise fun item next => p next → p item) :
    items.filter p ++ items.filter (!p ·) = items := by
  induction items with
  | nil => rfl
  | cons item rest ih =>
    cases holds : p item with
    | true => simpa [holds] using ih sorted.of_cons
    | false =>
      have none := filter_eq_nil_of_fails sorted holds
      have others := ih sorted.of_cons
      rw [none, List.nil_append] at others
      rw [List.filter_cons_of_neg (by simp [holds]), none,
        List.filter_cons_of_pos (by simp [holds]), others, List.nil_append]

/-- The search counts the items that satisfy the test. -/
theorem bisect_eq_length_filter (sorted : items.Pairwise fun item next => p next → p item) :
    bisect p items 0 items.length = (items.filter p).length := by
  have yes : ∀ item ∈ items.filter p, p item = true := fun _ mem => (List.mem_filter.mp mem).2
  have no : ∀ item ∈ items.filter (!p ·), p item = false :=
    fun _ mem => by simpa using (List.mem_filter.mp mem).2
  have found := bisect_append yes no (Nat.zero_le _) (Nat.le_add_right _ _)
    (Nat.le_of_eq List.length_append.symm)
  rwa [← List.length_append, filter_append_filter_not sorted] at found

theorem take_bisect (sorted : items.Pairwise fun item next => p next → p item) :
    items.take (bisect p items 0 items.length) = items.filter p := by
  rw [bisect_eq_length_filter sorted]
  exact (congrArg (List.take _) (filter_append_filter_not sorted)).symm.trans List.take_left

end

/-- Of tokens that stand one after the other, those that end by a position come first. -/
theorem sorted_stop {tokens : List Token}
    (wide : ∀ token ∈ tokens, token.span.start < token.span.stop)
    (ordered : tokens.Pairwise fun token next => token.span.stop ≤ next.span.start)
    (position : Nat) :
    tokens.Pairwise fun token next =>
      decide (next.span.stop ≤ position) → decide (token.span.stop ≤ position) := by
  refine ordered.imp_of_mem fun {token next} _ mem apart ended => decide_eq_true ?_
  have width := wide next mem
  have reaches := of_decide_eq_true ended
  omega

/-- In a stream of tokens that stand one after the other, the tokens before a range are those that
end where it starts or earlier, the last one first. -/
theorem TokenStream.before_eq {stream : TokenStream}
    (wide : ∀ token ∈ stream.tokens, token.span.start < token.span.stop)
    (ordered : stream.tokens.Pairwise fun token next => token.span.stop ≤ next.span.start)
    (span : Span) :
    stream.before span = (stream.tokens.filter (·.span.stop ≤ span.start)).reverse := by
  rw [before, endsBy, take_bisect (sorted_stop wide ordered span.start)]

/-- The nearest token before a node is the last of the tokens that end before it, provided that the
leaves of the tree are ranges between characters, one after the other. -/
theorem head?_before_streamOf {source : Text} {tree : Tree} (placed : Placed source tree.leaves)
    (span : Span) : ((streamOf source tree).before span).head? =
      ((streamOf source tree).tokens.filter (·.span.stop ≤ span.start)).getLast? := by
  have partition := partition_streamOf source tree placed
  rw [TokenStream.before_eq partition.wide partition.ordered, List.head?_reverse]

end CommentDocs.Syntax
