import CommentDocs.Proofs.Syntax.Boundary
import CommentDocs.Syntax.Lexis
import Mathlib.Data.List.Chain

/-!
# Tokens partition the leaves of a tree

Every leaf becomes a token of its own, except that a comment which stands alone on its line
may extend the token before it. So each token covers a run of consecutive leaves, the runs
make up all leaves, and what a token says follows from its run. The scan never goes back: two
neighbouring tokens of lone comments stay apart only because the source between them keeps
them apart.

Nothing is assumed about the source for this. That tokens have a width and do not overlap
needs leaves whose bytes are ranges between characters, in order.
-/

namespace CommentDocs.Syntax

open Text

variable (source : Text)

def leafText (leaf : Tree) : Text :=
  slice source (leaf.span source).start (leaf.span source).stop

/-- Whether a leaf is a comment on a line of its own, other than a block comment. -/
def standsAlone (leaf : Tree) : Bool :=
  leaf.isComment && !"/*".toList.isPrefixOf (leafText source leaf) &&
    startsLine source (leaf.span source).start

def leafKind (leaf : Tree) : TokenKind :=
  if !leaf.isComment then .code
  else if "/*".toList.isPrefixOf (leafText source leaf) then .blockComment
  else if !startsLine source (leaf.span source).start then .trailingComment
  else .lineComments

/-- The text of a leaf without the marks of its kind. -/
def leafBody (leaf : Tree) : Text :=
  match leafKind source leaf with
  | .code => leafText source leaf
  | .blockComment => blockBody (leafText source leaf)
  | .trailingComment | .lineComments => (leafText source leaf).drop 2

/-- The token of a leaf that joins no other. -/
def leafToken (leaf : Tree) : Token :=
  ⟨leafKind source leaf, leafBody source leaf, leaf.span source⟩

/-- A token that goes on with one more leaf. -/
def Token.extend (previous : Token) (leaf : Tree) : Token :=
  ⟨.lineComments, previous.text ++ '\n' :: leafBody source leaf,
    ⟨previous.span.start, (leaf.span source).stop⟩⟩

theorem leafKind_eq_lineComments_iff (leaf : Tree) :
    leafKind source leaf = .lineComments ↔ standsAlone source leaf = true := by
  unfold leafKind standsAlone
  cases leaf.isComment <;> cases "/*".toList.isPrefixOf (leafText source leaf) <;>
    cases startsLine source (leaf.span source).start <;> simp

/-- Adding a leaf is one of two things: the last token goes on, or there is a new one. -/
theorem addLeaf_cons (previous : Token) (earlier : List Token) (leaf : Tree) :
    addLeaf source (previous :: earlier) leaf =
      if standsAlone source leaf = true ∧
          continues source previous (leaf.span source).start = true then
        previous.extend source leaf :: earlier
      else leafToken source leaf :: previous :: earlier := by
  grind [addLeaf, standsAlone, Token.extend, leafToken, leafBody, leafKind, leafText]

theorem addLeaf_nil (leaf : Tree) : addLeaf source [] leaf = [leafToken source leaf] := by
  grind [addLeaf, leafToken, leafBody, leafKind, leafText]

/-- What a token says of the run of leaves that it covers: they are of its kind, its text
joins their bodies, and it spans them from the first to the last. -/
structure Token.Covers (token : Token) (run : List Tree) : Prop where
  kind : ∀ leaf ∈ run, leafKind source leaf = token.kind
  text : token.text = joinWith '\n' (run.map (leafBody source))
  span : ∃ first last, run.head? = some first ∧ run.getLast? = some last ∧
    token.span = ⟨(first.span source).start, (last.span source).stop⟩
  merged : 1 < run.length → ∀ leaf ∈ run, standsAlone source leaf = true

/-- Only blanks with one newline stand between two tokens of lone comments. -/
def Joins (token next : Token) : Prop :=
  token.kind = .lineComments ∧ next.kind = .lineComments ∧
    allBlank (slice source token.span.stop next.span.start) = true ∧
      occurrences '\n' (slice source token.span.stop next.span.start) = 1

variable {source}

theorem joins_iff_continues {token next : Token} (alone : next.kind = .lineComments) :
    Joins source token next ↔ continues source token next.span.start = true := by
  simp [Joins, continues, alone, and_assoc]

theorem covers_leafToken (leaf : Tree) : (leafToken source leaf).Covers source [leaf] where
  kind other mem := by rw [List.mem_singleton.mp mem]; rfl
  text := rfl
  span := ⟨leaf, leaf, rfl, rfl, rfl⟩
  merged several := absurd several (Nat.lt_irrefl 1)

/-- A lone comment extends a token of lone comments. -/
theorem Token.Covers.extend {previous : Token} {run : List Tree}
    (covers : previous.Covers source run) (lines : previous.kind = .lineComments) {leaf : Tree}
    (alone : standsAlone source leaf = true) :
    (previous.extend source leaf).Covers source (run ++ [leaf]) := by
  obtain ⟨first, last, head, _, span⟩ := covers.span
  have allAlone : ∀ other ∈ run ++ [leaf], standsAlone source other = true := by
    intro other mem
    rcases List.mem_append.mp mem with old | new
    · exact (leafKind_eq_lineComments_iff source other).mp ((covers.kind other old).trans lines)
    · rwa [List.mem_singleton.mp new]
  refine ⟨fun other mem => ?_, ?_, ⟨first, leaf, ?_, ?_, ?_⟩, fun _ => allAlone⟩
  · exact (leafKind_eq_lineComments_iff source other).mpr (allAlone other mem)
  · have nonempty : run.map (leafBody source) ≠ [] := by
      intro empty
      rw [List.map_eq_nil_iff.mp empty] at head
      cases head
    rw [List.map_append, List.map_singleton, joinWith_concat '\n' nonempty, ← covers.text]
    rfl
  · rw [List.head?_append, head, Option.some_or]
  · exact List.getLast?_concat
  · rw [Token.extend, span]

/-- What a scan has come to: the tokens with the runs that they cover, the last one first. -/
structure Scanned (source : Text) (leaves : List Tree) (tokens : List Token) : Prop where
  parts : ∃ parts : List (Token × List Tree), parts.map Prod.fst = tokens ∧
    parts.reverse.flatMap Prod.snd = leaves ∧ ∀ part ∈ parts, part.1.Covers source part.2
  maximal : tokens.IsChain fun next token => ¬ Joins source token next

theorem scanned_nil : Scanned source [] [] :=
  ⟨⟨[], rfl, rfl, fun _ mem => nomatch mem⟩, .nil⟩

theorem Scanned.addLeaf {leaves : List Tree} {tokens : List Token}
    (scanned : Scanned source leaves tokens) (leaf : Tree) :
    Scanned source (leaves ++ [leaf]) (addLeaf source tokens leaf) := by
  obtain ⟨⟨parts, rfl, rfl, covers⟩, maximal⟩ := scanned
  -- a token of its own comes before those that are there
  have own (apart : (leafToken source leaf :: parts.map Prod.fst).IsChain
        fun next token => ¬ Joins source token next) :
      Scanned source (parts.reverse.flatMap Prod.snd ++ [leaf])
        (leafToken source leaf :: parts.map Prod.fst) := by
    refine ⟨⟨(leafToken source leaf, [leaf]) :: parts, rfl, by simp, ?_⟩, apart⟩
    intro part mem
    rcases List.mem_cons.mp mem with rfl | old
    · exact covers_leafToken leaf
    · exact covers part old
  cases parts with
  | nil =>
    rw [List.map_nil, addLeaf_nil]
    exact own (.singleton _)
  | cons part earlier =>
    rw [List.map_cons, addLeaf_cons]
    split
    · rename_i joined
      have lines : part.1.kind = .lineComments := by
        have going := joined.2
        simp only [continues, Bool.and_eq_true, decide_eq_true_eq] at going
        exact going.1.1
      have extended := (covers part List.mem_cons_self).extend lines joined.1
      refine ⟨⟨(part.1.extend source leaf, part.2 ++ [leaf]) :: earlier, rfl, by simp, ?_⟩, ?_⟩
      · intro other mem
        rcases List.mem_cons.mp mem with rfl | old
        · exact extended
        · exact covers other (List.mem_cons_of_mem _ old)
      · -- the extended token starts where it started, so it is as far from the one before it
        rw [List.map_cons, List.isChain_cons] at maximal
        refine List.isChain_cons.mpr ⟨fun token before joins => ?_, maximal.2⟩
        exact maximal.1 token before ⟨joins.1, lines, joins.2.2⟩
    · rename_i apart
      refine own (List.isChain_cons_cons.mpr ⟨fun joins => apart ?_, maximal⟩)
      have alone := (leafKind_eq_lineComments_iff source leaf).mp joins.2.1
      exact ⟨alone, (joins_iff_continues joins.2.1).mp joins⟩

theorem scanned_foldl {before : List Tree} {tokens : List Token}
    (scanned : Scanned source before tokens) (leaves : List Tree) :
    Scanned source (before ++ leaves) (leaves.foldl (addLeaf source) tokens) := by
  induction leaves generalizing before tokens with
  | nil => rwa [List.append_nil]
  | cons leaf rest ih =>
    have next := ih (scanned.addLeaf leaf)
    rwa [List.append_assoc] at next

/-- Leaves whose bytes are ranges between characters, one after the other. -/
structure Placed (source : Text) (leaves : List Tree) : Prop where
  start : ∀ leaf ∈ leaves, IsBoundary source leaf.start
  stop : ∀ leaf ∈ leaves, IsBoundary source leaf.stop
  ordered : leaves.Pairwise fun leaf next => leaf.stop ≤ next.start

instance (leaves : List Tree) : Decidable (Placed source leaves) :=
  decidable_of_iff ((∀ leaf ∈ leaves, IsBoundary source leaf.start) ∧
      (∀ leaf ∈ leaves, IsBoundary source leaf.stop) ∧
        leaves.Pairwise fun leaf next => leaf.stop ≤ next.start)
    ⟨fun ⟨start, stop, ordered⟩ => ⟨start, stop, ordered⟩,
      fun placed => ⟨placed.start, placed.stop, placed.ordered⟩⟩

theorem Placed.of_sublist {leaves some : List Tree} (placed : Placed source leaves)
    (sublist : some.Sublist leaves) : Placed source some where
  start leaf mem := placed.start leaf (sublist.subset mem)
  stop leaf mem := placed.stop leaf (sublist.subset mem)
  ordered := placed.ordered.sublist sublist

mutual

/-- The leaves of a tree are not empty. -/
theorem start_lt_stop_of_mem_fringe (tree : Tree) :
    ∀ leaf ∈ tree.fringe, leaf.start < leaf.stop := by
  cases tree with
  | node type start stop isNamed field children =>
    cases children with
    | nil =>
      intro leaf mem
      unfold Tree.fringe at mem
      split at mem
      · rw [List.mem_singleton.mp mem]
        assumption
      · cases mem
    | cons child rest =>
      unfold Tree.fringe
      exact start_lt_stop_of_mem_forestFringe (child :: rest)

theorem start_lt_stop_of_mem_forestFringe (forest : List Tree) :
    ∀ leaf ∈ Tree.forestFringe forest, leaf.start < leaf.stop := by
  cases forest with
  | nil => exact fun _ mem => nomatch mem
  | cons tree rest =>
    intro leaf mem
    rcases List.mem_append.mp mem with here | there
    · exact start_lt_stop_of_mem_fringe tree leaf here
    · exact start_lt_stop_of_mem_forestFringe rest leaf there

end

theorem start_lt_stop_of_mem_leaves (tree : Tree) :
    ∀ leaf ∈ tree.leaves, leaf.start < leaf.stop := by
  rw [tree.leaves_eq_fringe]
  exact start_lt_stop_of_mem_fringe tree

/-- A token that covers leaves in order has a width. -/
theorem Token.Covers.start_lt_stop {token : Token} {run : List Tree}
    (covers : token.Covers source run) (placed : Placed source run)
    (wide : ∀ leaf ∈ run, leaf.start < leaf.stop) : token.span.start < token.span.stop := by
  obtain ⟨first, last, head, final, span⟩ := covers.span
  have firstMem := List.mem_of_head? head
  have lastMem := List.mem_of_getLast? final
  have bytes : first.start < last.stop := by
    cases run with
    | nil => cases head
    | cons leaf rest =>
      cases head
      rcases List.mem_cons.mp lastMem with same | later
      · rw [same]
        exact wide first firstMem
      · have next := (List.pairwise_cons.mp placed.ordered).1 last later
        have here := wide first firstMem
        have there := wide last lastMem
        omega
  rw [span]
  exact charIndex_lt (placed.start first firstMem) (placed.stop last lastMem) bytes

/-- Of two tokens, the one that covers earlier leaves ends before the other starts. -/
theorem Token.Covers.stop_le_start {token next : Token} {run later : List Tree}
    (covers : token.Covers source run) (coversNext : next.Covers source later)
    (ordered : ∀ leaf ∈ run, ∀ other ∈ later, leaf.stop ≤ other.start) :
    token.span.stop ≤ next.span.start := by
  obtain ⟨_, last, _, final, span⟩ := covers.span
  obtain ⟨first, _, head, _, spanNext⟩ := coversNext.span
  rw [span, spanNext]
  exact charIndex_mono source
    (ordered last (List.mem_of_getLast? final) first (List.mem_of_head? head))

/-- Tokens that partition the leaves of a tree: each covers a run of them, nothing is left out
or covered twice, the tokens stand one after the other, and no two could be one. -/
structure Partition (source : Text) (leaves : List Tree) (tokens : List Token) : Prop where
  parts : ∃ parts : List (Token × List Tree), parts.map Prod.fst = tokens ∧
    parts.flatMap Prod.snd = leaves ∧ ∀ part ∈ parts, part.1.Covers source part.2
  wide : ∀ token ∈ tokens, token.span.start < token.span.stop
  ordered : tokens.Pairwise fun token next => token.span.stop ≤ next.span.start
  maximal : tokens.IsChain fun token next => ¬ Joins source token next

/-- The runs that a scan has found, read from left to right, are a partition of leaves in
order. -/
theorem Scanned.partition {leaves : List Tree} {tokens : List Token}
    (scanned : Scanned source leaves tokens) (placed : Placed source leaves)
    (wide : ∀ leaf ∈ leaves, leaf.start < leaf.stop) : Partition source leaves tokens.reverse := by
  obtain ⟨⟨reversed, rfl, rfl, covers⟩, maximal⟩ := scanned
  rw [← List.map_reverse]
  have covers : ∀ part ∈ reversed.reverse, part.1.Covers source part.2 :=
    fun part mem => covers part (List.mem_reverse.mp mem)
  refine ⟨⟨reversed.reverse, rfl, rfl, covers⟩, ?_, ?_, ?_⟩
  · intro token mem
    obtain ⟨part, inside, rfl⟩ := List.mem_map.mp mem
    have run : part.2.Sublist (reversed.reverse.flatMap Prod.snd) :=
      List.sublist_flatten_of_mem (List.mem_map_of_mem inside)
    exact (covers part inside).start_lt_stop (placed.of_sublist run)
      fun leaf leafMem => wide leaf (run.subset leafMem)
  · refine List.pairwise_map.mpr ?_
    refine (List.pairwise_flatMap.mp placed.ordered).2.imp_of_mem ?_
    exact fun first second apart => (covers _ first).stop_le_start (covers _ second) apart
  · rw [List.map_reverse, List.isChain_reverse]
    exact maximal

/-- The tokens of a source partition the leaves of its tree, provided that the leaves are
ranges between characters, one after the other. -/
theorem partition_streamOf (source : Text) (tree : Tree) (placed : Placed source tree.leaves) :
    Partition source tree.leaves (streamOf source tree).tokens := by
  have scanned : Scanned source tree.leaves (tree.leaves.foldl (addLeaf source) []) :=
    scanned_foldl scanned_nil tree.leaves
  have partition : Partition source tree.leaves (tokensOf source tree) :=
    scanned.partition placed (start_lt_stop_of_mem_leaves tree)
  have sorted : (tokensOf source tree).Pairwise fun a b => a.span.start ≤ b.span.start := by
    refine partition.ordered.imp_of_mem fun {token next} mem _ apart => ?_
    exact Nat.le_trans (Nat.le_of_lt (partition.wide token mem)) apart
  rwa [streamOf_eq_of_sorted sorted]

/-- Two comments on lines of their own, one with a character of two bytes, and a comment after
code. -/
def accentedSource : Text := "// é\n// b\nx // c".toList

def accentedTree : Tree :=
  .node "program".toList 0 17 true none [
    .node "comment".toList 0 5 true none [],
    .node "comment".toList 6 10 true none [],
    .node "expression_statement".toList 11 12 true none [
      .node "identifier".toList 11 12 true none []],
    .node "comment".toList 13 17 true none []]

/-- The first two leaves are one token, although the second starts at another character than
its first byte. -/
theorem partition_streamOf_accented :
    Placed accentedSource accentedTree.leaves ∧
      Partition accentedSource accentedTree.leaves (streamOf accentedSource accentedTree).tokens ∧
        (streamOf accentedSource accentedTree).tokens =
          [⟨.lineComments, " é\n b".toList, ⟨0, 9⟩⟩, ⟨.code, "x".toList, ⟨10, 11⟩⟩,
            ⟨.trailingComment, " c".toList, ⟨12, 16⟩⟩] := by
  have placed : Placed accentedSource accentedTree.leaves := by decide +kernel
  refine ⟨placed, partition_streamOf accentedSource accentedTree placed, ?_⟩
  rw [streamOf_eq_of_sorted (by decide +kernel)]
  decide +kernel

end CommentDocs.Syntax
