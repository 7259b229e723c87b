import CommentDocs.Proofs.Syntax.Nearest
import Mathlib.Data.List.Nodup

/-!
# Looking up tokens by position

A look-up within a range takes two searches: one counts the tokens that end in the range or before
it, the other those that start before it. In a sequence of tokens that do not overlap, both cut off
a beginning, so what is left between them is found by the two tests alone. It does not matter
whether the range cuts through tokens, is empty or ends before it starts.
-/

namespace CommentDocs.Syntax

/-- Where two tests fail for good, dropping as many items as satisfy the first from those that
satisfy the second leaves those that satisfy the second only. -/
theorem drop_filter {α : Type} {p q : α → Bool} {items : List α}
    (first : items.Pairwise fun item next => p next → p item)
    (second : items.Pairwise fun item next => q next → q item) :
    (items.filter q).drop (items.filter p).length = (items.filter q).filter (!p ·) := by
  induction items with
  | nil => rfl
  | cons item rest ih =>
    have later := ih first.of_cons second.of_cons
    cases past : p item with
    | false =>
      -- nothing satisfies the first test, so nothing is dropped
      have none : (item :: rest).filter p = [] := by
        rw [List.filter_cons_of_neg (by simp [past]), filter_eq_nil_of_fails first past]
      rw [none, List.length_nil, List.drop_zero]
      refine (List.filter_eq_self.mpr fun next mem => ?_).symm
      simpa using List.filter_eq_nil_iff.mp none next (List.mem_filter.mp mem).1
    | true =>
      cases inside : q item with
      | true => simpa [past, inside] using later
      | false =>
        have none : (item :: rest).filter q = [] := by
          rw [List.filter_cons_of_neg (by simp [inside]), filter_eq_nil_of_fails second inside]
        rw [none, List.drop_nil, List.filter_nil]

/-- Tokens that have a width, each of which ends where the next one starts or earlier. -/
structure InSequence (tokens : List Token) : Prop where
  wide : ∀ token ∈ tokens, token.span.start < token.span.stop
  next : tokens.IsChain fun token next => token.span.stop ≤ next.span.start

instance (tokens : List Token) : Decidable (InSequence tokens) :=
  decidable_of_iff ((∀ token ∈ tokens, token.span.start < token.span.stop) ∧
      tokens.IsChain fun token next => token.span.stop ≤ next.span.start)
    ⟨fun ⟨wide, next⟩ => ⟨wide, next⟩, fun sequence => ⟨sequence.wide, sequence.next⟩⟩

namespace InSequence

variable {tokens : List Token}

theorem tail {token : Token} (sequence : InSequence (token :: tokens)) : InSequence tokens where
  wide other mem := sequence.wide other (List.mem_cons_of_mem _ mem)
  next := sequence.next.tail

/-- A token ends before every later one, as those between them have a width. -/
theorem ordered (sequence : InSequence tokens) :
    tokens.Pairwise fun token next => token.span.stop ≤ next.span.start := by
  induction tokens with
  | nil => exact .nil
  | cons token rest ih =>
    have others := ih sequence.tail
    refine .cons (fun later mem => ?_) others
    cases rest with
    | nil => cases mem
    | cons next rest =>
      have near := (List.isChain_cons_cons.mp sequence.next).1
      rcases List.mem_cons.mp mem with rfl | mem
      · exact near
      · have width := sequence.wide next (by simp)
        have far := (List.pairwise_cons.mp others).1 later mem
        omega

theorem sorted_start (sequence : InSequence tokens) (position : Nat) :
    tokens.Pairwise fun token next =>
      decide (next.span.start < position) → decide (token.span.start < position) := by
  refine sequence.ordered.imp_of_mem fun {token next} mem _ apart before => decide_eq_true ?_
  have width := sequence.wide token mem
  have reaches := of_decide_eq_true before
  omega

/-- Tokens in sequence start at different positions. -/
theorem eq_of_start_eq (sequence : InSequence tokens) {token other : Token} (mem : token ∈ tokens)
    (also : other ∈ tokens) (same : token.span.start = other.span.start) : token = other := by
  have distinct : (tokens.map (·.span.start)).Nodup := by
    refine List.pairwise_map.mpr (sequence.ordered.imp_of_mem fun {token next} mem _ apart => ?_)
    have width := sequence.wide token mem
    omega
  exact List.inj_on_of_nodup_map distinct mem also same

/-- What remains of a sequence when some tokens are left out still is one. -/
theorem filter (sequence : InSequence tokens) (p : Token → Bool) :
    InSequence (tokens.filter p) where
  wide token mem := sequence.wide token (List.mem_filter.mp mem).1
  next := (sequence.ordered.filter p).isChain

end InSequence

/-- A token ends at or before a position, and no token of the list does so later. -/
structure IsNearestBefore (tokens : List Token) (position : Nat) (token : Token) : Prop where
  mem : token ∈ tokens
  before : token.span.stop ≤ position
  latest : ∀ other ∈ tokens, other.span.stop ≤ position → other.span.stop ≤ token.span.stop

/-- The nearest token before a position is the last one that ends by it. -/
theorem InSequence.getLast?_filter_eq_some_iff {tokens : List Token} (sequence : InSequence tokens)
    {position : Nat} {token : Token} :
    (tokens.filter (·.span.stop ≤ position)).getLast? = some token ↔
      IsNearestBefore tokens position token := by
  have mem_iff (other : Token) : other ∈ tokens.filter (·.span.stop ≤ position) ↔
      other ∈ tokens ∧ other.span.stop ≤ position := by
    rw [List.mem_filter, decide_eq_true_iff]
  have some := sequence.filter (·.span.stop ≤ position)
  constructor
  · intro last
    obtain ⟨earlier, split⟩ := List.getLast?_eq_some_iff.mp last
    rw [split] at mem_iff some
    obtain ⟨mem, before⟩ := (mem_iff token).mp (by simp)
    refine ⟨mem, before, fun other also ends => ?_⟩
    rcases List.mem_append.mp ((mem_iff other).mpr ⟨also, ends⟩) with first | same
    · have apart := (List.pairwise_append.mp some.ordered).2.2 other first token (by simp)
      exact Nat.le_trans apart (Nat.le_of_lt (sequence.wide token mem))
    · rw [List.mem_singleton.mp same]
  · rintro ⟨mem, before, latest⟩
    have kept := (mem_iff token).mpr ⟨mem, before⟩
    rcases List.eq_nil_or_concat (tokens.filter (·.span.stop ≤ position)) with
      none | ⟨earlier, last, split⟩
    · rw [none] at kept
      cases kept
    · rw [List.concat_eq_append] at split
      rw [split] at kept some
      rw [split, List.getLast?_concat]
      rcases List.mem_append.mp kept with first | same
      · -- the last token ends after all others, so the token is none of them
        have apart := (List.pairwise_append.mp some.ordered).2.2 token first last (by simp)
        have width := some.wide last (by simp)
        obtain ⟨also, ends⟩ := (mem_iff last).mp (by simp [split])
        have late := latest last also ends
        omega
      · rw [List.mem_singleton.mp same]

namespace TokenStream

/-- Tokens that can be put in sequence are put so by a stream, whatever order they are given in. -/
theorem tokens_ofTokens (text : Text) {tokens order : List Token} (perm : order.Perm tokens)
    (sequence : InSequence order) : (ofTokens text tokens).tokens = order := by
  let starts (token other : Token) : Bool := token.span.start ≤ other.span.start
  have trans : ∀ first second third, starts first second = true → starts second third = true →
      starts first third = true := fun first second third one two =>
    decide_eq_true (Nat.le_trans (of_decide_eq_true one) (of_decide_eq_true two))
  have total : ∀ token other, (starts token other || starts other token) = true := by
    intro token other
    simpa [starts] using Nat.le_total _ _
  have same : (tokens.mergeSort starts).Perm order :=
    (List.mergeSort_perm tokens starts).trans perm.symm
  have sorted : order.Pairwise fun token next => starts token next = true := by
    refine sequence.ordered.imp_of_mem fun {token next} mem _ apart => decide_eq_true ?_
    exact Nat.le_trans (Nat.le_of_lt (sequence.wide token mem)) apart
  refine List.Perm.eq_of_pairwise (fun token other mem also one two => ?_)
    (List.pairwise_mergeSort trans total tokens) sorted same
  exact sequence.eq_of_start_eq (same.mem_iff.mp mem) also
    (Nat.le_antisymm (of_decide_eq_true one) (of_decide_eq_true two))

/-- A look-up in a stream of tokens that can be put in sequence, whatever order they are given in:
within a range are, in sequence, all tokens that start and end in it, and before a range are all
tokens that end where it starts or earlier, in the opposite order. The first of the latter is the
one that is nearest to the range. -/
theorem lookups_ofTokens (text : Text) {tokens order : List Token} (perm : order.Perm tokens)
    (sequence : InSequence order) (span : Span) :
    (ofTokens text tokens).inside span = order.filter (fun token =>
        span.start ≤ token.span.start && token.span.stop ≤ span.stop) ∧
      (ofTokens text tokens).before span = (order.filter (·.span.stop ≤ span.start)).reverse ∧
      ∀ token, ((ofTokens text tokens).before span).head? = some token ↔
        IsNearestBefore tokens span.start token := by
  have stream := tokens_ofTokens text perm sequence
  have ends := sorted_stop sequence.wide sequence.ordered
  have before : (ofTokens text tokens).before span =
      (order.filter (·.span.stop ≤ span.start)).reverse := by
    rw [TokenStream.before, endsBy, stream, take_bisect (ends span.start)]
  refine ⟨?_, before, fun token => ?_⟩
  · have starts := sequence.sorted_start span.start
    rw [inside, endsBy, startsBefore, stream, take_bisect (ends span.stop),
      bisect_eq_length_filter starts, drop_filter starts (ends span.stop)]
    rw [List.filter_filter]
    refine List.filter_congr fun token _ => ?_
    rw [← decide_not, decide_eq_decide.mpr Nat.not_lt]
  · rw [before, List.head?_reverse, sequence.getLast?_filter_eq_some_iff]
    constructor
    · rintro ⟨mem, ended, latest⟩
      exact ⟨perm.mem_iff.mp mem, ended, fun other also => latest other (perm.mem_iff.mpr also)⟩
    · rintro ⟨mem, ended, latest⟩
      exact ⟨perm.mem_iff.mpr mem, ended, fun other also => latest other (perm.mem_iff.mp also)⟩

/-- A comment and two pieces of code, the later ones first. -/
def shuffled : List Token :=
  [⟨.code, "= 1".toList, ⟨6, 9⟩⟩, ⟨.code, "x".toList, ⟨4, 5⟩⟩, ⟨.blockComment, "A".toList, ⟨0, 4⟩⟩]

/-- A range that cuts through the comment holds the code; a range that ends before it starts holds
nothing, although tokens end before it. -/
theorem lookups_ofTokens_shuffled :
    shuffled.reverse.Perm shuffled ∧ InSequence shuffled.reverse ∧
      (ofTokens [] shuffled).inside ⟨1, 9⟩ =
        [⟨.code, "x".toList, ⟨4, 5⟩⟩, ⟨.code, "= 1".toList, ⟨6, 9⟩⟩] ∧
      (ofTokens [] shuffled).inside ⟨5, 2⟩ = [] ∧
      (ofTokens [] shuffled).before ⟨5, 2⟩ =
        [⟨.code, "x".toList, ⟨4, 5⟩⟩, ⟨.blockComment, "A".toList, ⟨0, 4⟩⟩] ∧
      IsNearestBefore shuffled 5 ⟨.code, "x".toList, ⟨4, 5⟩⟩ := by
  have perm : shuffled.reverse.Perm shuffled := List.reverse_perm shuffled
  have sequence : InSequence shuffled.reverse := by decide
  obtain ⟨wide, -, -⟩ := lookups_ofTokens [] perm sequence ⟨1, 9⟩
  obtain ⟨inverted, before, nearest⟩ := lookups_ofTokens [] perm sequence ⟨5, 2⟩
  have found : (ofTokens [] shuffled).before ⟨5, 2⟩ =
      [⟨.code, "x".toList, ⟨4, 5⟩⟩, ⟨.blockComment, "A".toList, ⟨0, 4⟩⟩] := before.trans (by decide)
  refine ⟨perm, sequence, wide.trans (by decide), inverted.trans (by decide), found, ?_⟩
  exact (nearest _).mp (by rw [found]; rfl)

end TokenStream

end CommentDocs.Syntax

