import CommentDocs.Proofs.Binding.Confinement
import CommentDocs.Proofs.Syntax.Partition
import Mathlib.Data.List.Infix
import Mathlib.Data.List.TakeWhile

/-!
# The comment of a return statement

A return statement is documented by what follows the last two slashes of its first line. This is
looked for in the text alone, not among the tokens: the two slashes may as well stand in a string,
and a comment that has two slashes in it is cut. So the statement is documented by the whole of a
comment exactly if the comment has no other two slashes in it.
-/

namespace CommentDocs

namespace Text

variable {text line rest : Text} {first middle last : Nat}

theorem slice_append (low : first ≤ middle) (high : middle ≤ last) :
    slice text first middle ++ slice text middle last = slice text first last := by
  have width : last - first = (middle - first) + (last - middle) := by omega
  have place : text.drop middle = (text.drop first).drop (middle - first) := by
    rw [List.drop_drop, Nat.add_sub_cancel' low]
  simp only [slice, List.drop_take]
  rw [width, place, List.take_add]

theorem slice_cons {c : Char} (here : text[first]? = some c) (before : first < last) :
    slice text first last = c :: slice text (first + 1) last := by
  obtain ⟨inside, rfl⟩ := List.getElem?_eq_some_iff.mp here
  have reached : first < (text.take last).length := by rw [List.length_take]; omega
  rw [slice, List.drop_eq_getElem_cons reached, List.getElem_take, slice]

theorem le_of_slice_ne_nil (filled : slice text first last ≠ []) : first ≤ last := by
  refine Nat.le_of_not_lt fun past => filled (List.drop_eq_nil_of_le ?_)
  rw [List.length_take]
  omega

/-- Trimming takes no slash away. -/
theorem count_undecorated (text : Text) : (undecorated text).count '/' = text.count '/' := by
  have kept (p : Char → Bool) (slash : p '/' = false) (text : Text) :
      (text.dropWhile p).count '/' = text.count '/' := by
    have none : (text.takeWhile p).count '/' = 0 :=
      List.count_eq_zero.mpr fun mem => by simp [List.mem_takeWhile_imp mem] at slash
    have parted := congrArg (List.count '/') (List.takeWhile_append_dropWhile (p := p) (l := text))
    rw [List.count_append, none, Nat.zero_add] at parted
    exact parted
  rw [undecorated, trimEnd, dropWhileEnd, List.count_reverse, kept isBlank (by decide),
    List.count_reverse, kept isDecoration (by decide)]

end Text

namespace Binding

open Text Syntax

variable {text line rest tail body : Text}

def slashes : Text := ['/', '/']

theorem isPrefixOf?_slashes : "//".toList.isPrefixOf? line = some tail ↔ line = slashes ++ tail :=
  List.isPrefixOf?_eq_some_iff_append_eq.trans eq_comm

theorem afterLastSlashes?_eq_none_iff : afterLastSlashes? line = none ↔ ¬ slashes <:+: line := by
  induction line with
  | nil => simp [afterLastSlashes?, slashes]
  | cons c rest ih =>
    rw [afterLastSlashes?, List.infix_cons_iff]
    cases later : afterLastSlashes? rest with
    | some tail =>
      rw [later] at ih
      simp only [reduceCtorEq, false_iff, Decidable.not_not] at ih ⊢
      exact .inr ih
    | none =>
      have free := ih.mp later
      simp only [free, or_false, Option.eq_none_iff_forall_ne_some, ne_eq, isPrefixOf?_slashes]
      constructor
      · rintro none ⟨tail, same⟩
        exact none tail same.symm
      · exact fun none tail same => none ⟨tail, same.symm⟩

/-- The last two slashes are those after which no slashes follow, not even one slash on. -/
theorem afterLastSlashes?_eq_some_iff : afterLastSlashes? line = some tail ↔
    ∃ before, line = before ++ slashes ++ tail ∧ ¬ slashes <:+: '/' :: tail := by
  induction line with
  | nil => simp [afterLastSlashes?, slashes]
  | cons c rest ih =>
    rw [afterLastSlashes?]
    cases later : afterLastSlashes? rest with
    | some last =>
      rw [later] at ih
      rw [ih]
      constructor
      · rintro ⟨before, rfl, free⟩
        exact ⟨c :: before, rfl, free⟩
      · rintro ⟨_ | ⟨d, before⟩, same, free⟩
        · -- no slashes follow the first two, but there are some
          have next : rest = '/' :: tail := (List.cons.inj same).2
          rw [next, afterLastSlashes?_eq_none_iff.mpr free] at later
          cases later
        · exact ⟨before, (List.cons.inj same).2, free⟩
    | none =>
      have free := afterLastSlashes?_eq_none_iff.mp later
      rw [isPrefixOf?_slashes]
      constructor
      · intro same
        have next : rest = '/' :: tail := (List.cons.inj same).2
        exact ⟨[], same, next ▸ free⟩
      · rintro ⟨_ | ⟨d, before⟩, same, _⟩
        · exact same
        · refine absurd ⟨before, tail, ?_⟩ free
          exact (List.cons.inj same).2.symm

/-- What follows the last two slashes is the whole of what follows some two slashes exactly if
it is not cut by later ones. What is cut is shorter by slashes, which trimming leaves. -/
theorem undecorated_eq_iff (found : afterLastSlashes? (line ++ slashes ++ body) = some tail) :
    undecorated tail = undecorated body ↔ ¬ slashes <:+: '/' :: body := by
  constructor
  · intro same cut
    obtain ⟨before, parted, free⟩ := afterLastSlashes?_eq_some_iff.mp found
    have counts := congrArg (List.count '/') same
    rw [count_undecorated, count_undecorated] at counts
    have second : '/' :: body <:+ line ++ slashes ++ body := ⟨line ++ ['/'], by simp [slashes]⟩
    have lastTwo : slashes ++ tail <:+ line ++ slashes ++ body := ⟨before, by simp [parted]⟩
    rcases List.suffix_or_suffix_of_suffix lastTwo second with later | earlier
    · have fewer := later.count_le '/'
      simp only [slashes, List.count_append, List.count_cons_self, List.count_nil] at fewer
      omega
    · have earlier : '/' :: body <:+ '/' :: '/' :: tail := earlier
      rcases List.suffix_cons_iff.mp earlier with whole | past
      · have fewer := congrArg (List.count '/') whole
        simp only [List.count_cons_self] at fewer
        omega
      · exact free (cut.trans past.isInfix)
  · intro free
    rw [afterLastSlashes?_eq_some_iff.mpr ⟨line, rfl, free⟩] at found
    rw [Option.some.inj found]

theorem firstLineComment?_of_line (free : '\n' ∉ line) :
    firstLineComment? (line ++ '\n' :: rest) = afterLastSlashes? line := by
  rw [firstLineComment?, splitOn_append line rest free]
  cases pieces : splitOn '\n' rest with
  | nil => exact absurd pieces (splitOn_ne_nil '\n' rest)
  | cons _ _ => rfl

/-- No comment is found exactly if there are no two slashes on the first line, or no line ends. -/
theorem firstLineComment?_eq_none_iff : firstLineComment? text = none ↔
    ∀ line rest, text = line ++ '\n' :: rest → '\n' ∉ line → ¬ slashes <:+: line := by
  constructor
  · rintro none line rest rfl free
    rwa [firstLineComment?_of_line free, afterLastSlashes?_eq_none_iff] at none
  · intro plain
    by_cases ended : '\n' ∈ text
    · obtain ⟨line, rest, rfl, free⟩ := List.eq_append_cons_of_mem ended
      rw [firstLineComment?_of_line free, afterLastSlashes?_eq_none_iff]
      exact plain line rest rfl free
    · rw [firstLineComment?, splitOn_of_notMem ended]

section

variable (site : Site) (node : Node)

theorem returnFragment_of_none (none : firstLineComment? (site.stream.textOf node.span) = none) :
    returnFragment site node = {} := by
  rw [returnFragment, none]

theorem returnFragment_of_some
    (found : firstLineComment? (site.stream.textOf node.span) = some tail) :
    returnFragment site node = { type := .text (undecorated tail) } := by
  rw [returnFragment, found]

end

variable {source : Text} {tree : Tree} {token : Token} {node : Node}

/-- A token of the stream is a comment of one line after two slashes. -/
structure IsLineComment (source : Text) (token : Token) : Prop where
  kind : token.kind = .trailingComment ∨ token.kind = .lineComments
  marked : slashes <+: slice source token.span.start token.span.stop
  single : '\n' ∉ token.text

/-- A token starts on the first line of a node, and the line ends with it inside the node. -/
structure EndsFirstLine (source : Text) (node : Node) (token : Token) : Prop where
  inside : node.span.start ≤ token.span.start
  first : '\n' ∉ slice source node.span.start token.span.start
  ended : source[token.span.stop]? = some '\n'
  before : token.span.stop < node.span.stop

/-- Each token of a stream covers leaves of the tree. -/
theorem exists_covers_of_mem (mem : token ∈ (streamOf source tree).tokens) :
    ∃ run, run ≠ [] ∧ token.Covers source run := by
  have scanned : Scanned source tree.leaves (tree.leaves.foldl (addLeaf source) []) :=
    scanned_foldl scanned_nil tree.leaves
  obtain ⟨parts, tokens, -, covers⟩ := scanned.parts
  rw [streamOf, TokenStream.ofTokens, List.mem_mergeSort, tokensOf, List.mem_reverse, ← tokens]
    at mem
  obtain ⟨part, inside, rfl⟩ := List.mem_map.mp mem
  refine ⟨part.2, fun none => ?_, covers part inside⟩
  obtain ⟨first, _, head, _⟩ := (covers part inside).span
  rw [none] at head
  cases head

/-- A comment of one line is one leaf, so its text is the source after the slashes. -/
theorem slice_of_isLineComment (mem : token ∈ (streamOf source tree).tokens)
    (comment : IsLineComment source token) :
    slice source token.span.start token.span.stop = slashes ++ token.text := by
  obtain ⟨run, filled, covers⟩ := exists_covers_of_mem mem
  rcases run with _ | ⟨leaf, _ | ⟨next, others⟩⟩
  · exact absurd rfl filled
  · obtain ⟨first, last, head, final, span⟩ := covers.span
    cases head
    cases final
    obtain ⟨rest, marked⟩ := comment.marked
    have raw : leafText source leaf = slashes ++ rest := by
      rw [marked, span]
      rfl
    have text : token.text = leafBody source leaf := covers.text
    rw [← marked, text]
    rcases comment.kind with trailing | lines
    · rw [leafBody, covers.kind leaf List.mem_cons_self, trailing, raw]
      rfl
    · rw [leafBody, covers.kind leaf List.mem_cons_self, lines, raw]
      rfl
  · refine absurd ?_ comment.single
    rw [covers.text]
    simp [joinWith]

/-- The first line of a node whose first line a comment ends. -/
theorem exists_firstLine (mem : token ∈ (streamOf source tree).tokens)
    (comment : IsLineComment source token) (ends : EndsFirstLine source node token) :
    ∃ line rest, slice source node.span.start node.span.stop =
        line ++ slashes ++ token.text ++ '\n' :: rest ∧
      '\n' ∉ line ++ slashes ++ token.text := by
  have raw := slice_of_isLineComment mem comment
  have filled : slice source token.span.start token.span.stop ≠ [] := by
    rw [raw]
    exact List.cons_ne_nil _ _
  have width := le_of_slice_ne_nil filled
  refine ⟨slice source node.span.start token.span.start,
    slice source (token.span.stop + 1) node.span.stop, ?_, ?_⟩
  · rw [List.append_assoc _ slashes, ← raw, slice_append ends.inside width,
      ← slice_cons ends.ended ends.before,
      slice_append (Nat.le_trans ends.inside width) (Nat.le_of_lt ends.before)]
  · simp [ends.first, comment.single, slashes]

/-- A return statement is documented by what follows the last two slashes of its first line,
and by nothing if there are no two slashes or the line does not end in the statement. Whether
the slashes start a comment does not matter; a comment that ends the line is taken as a whole
exactly if no two slashes follow, of which the first may be a third slash of the mark. -/
theorem document_returning {δ : Type} (evaluate : Evaluator δ) (scope : ScopeId) (source : Text)
    (tree : Tree) (node : Node) (returning : node.kind = .returning) (owner : ValueId)
    (context : Option NodeKind) (store : Store δ) :
    let site : Site := ⟨streamOf source tree, scope⟩
    let text := slice source node.span.start node.span.stop
    let after := ((document (δ := δ) evaluate site node owner context).run store).2
    ((∀ line rest, text = line ++ '\n' :: rest → '\n' ∉ line → ¬ slashes <:+: line) →
        after = store) ∧
      (∀ before tail rest, text = before ++ slashes ++ tail ++ '\n' :: rest →
        '\n' ∉ before ++ slashes ++ tail → ¬ slashes <:+: '/' :: tail →
          after = store.mergeInto owner { type := .text (undecorated tail) }) ∧
      ∀ token ∈ (streamOf source tree).tokens, IsLineComment source token →
        EndsFirstLine source node token →
          after = store.mergeInto owner (returnFragment site node) ∧
            (returnFragment site node = { type := .text (undecorated token.text) } ↔
              ¬ slashes <:+: '/' :: token.text) := by
  intro site text after
  have merged : after = store.mergeInto owner (returnFragment site node) := by
    simp only [after, run_document, fragment, returning]
    rfl
  refine ⟨fun plain => ?_, fun before tail rest same unbroken free => ?_,
    fun token mem comment ends => ⟨merged, ?_⟩⟩
  · rw [merged, returnFragment_of_none site node (firstLineComment?_eq_none_iff.mpr plain),
      Store.mergeInto_empty]
  · have found : firstLineComment? text = some tail := by
      rw [same, firstLineComment?_of_line unbroken,
        afterLastSlashes?_eq_some_iff.mpr ⟨before, rfl, free⟩]
    rw [merged, returnFragment_of_some site node found]
  · obtain ⟨line, rest, same, unbroken⟩ := exists_firstLine mem comment ends
    have first : firstLineComment? text =
        afterLastSlashes? (line ++ slashes ++ token.text) := by
      rw [show text = _ from same, firstLineComment?_of_line unbroken]
    cases found : afterLastSlashes? (line ++ slashes ++ token.text) with
    | none => exact absurd ⟨line, token.text, rfl⟩ (afterLastSlashes?_eq_none_iff.mp found)
    | some tail =>
      rw [returnFragment_of_some site node (first.trans found), ← undecorated_eq_iff found]
      simp

def commentedSource : Text := "return x // Str\n;".toList

def commentedReturn : Tree :=
  .node returnType 0 17 true none [
    .node "return".toList 0 6 false none [],
    .node identifierType 7 8 true none [],
    .node "comment".toList 9 15 true none [],
    .node ";".toList 16 17 false none []]

def returnToken : Token := ⟨.trailingComment, " Str".toList, ⟨9, 15⟩⟩

def oneValue : Store Nat := { values := [{}] }

/-- Completing a value that waits for nothing. -/
def leaving : Evaluator Nat := fun _ => pure ()

theorem document_returning_commented :
    let node := commentedReturn.toNode commentedSource
    let after := ((document (δ := Nat) leaving
      ⟨streamOf commentedSource commentedReturn, 0⟩ node 0 none).run oneValue).2
    node.kind = .returning ∧ returnToken ∈ (streamOf commentedSource commentedReturn).tokens ∧
      IsLineComment commentedSource returnToken ∧ EndsFirstLine commentedSource node returnToken ∧
        after = oneValue.mergeInto 0 { type := .text "Str".toList } := by
  have kind : (commentedReturn.toNode commentedSource).kind = .returning := by decide +kernel
  have mem : returnToken ∈ (streamOf commentedSource commentedReturn).tokens := by
    rw [streamOf_eq_of_sorted (by decide +kernel)]
    decide +kernel
  have comment : IsLineComment commentedSource returnToken :=
    ⟨by decide, by decide, by decide⟩
  have ends : EndsFirstLine commentedSource (commentedReturn.toNode commentedSource)
      returnToken :=
    ⟨by decide +kernel, by decide +kernel, by decide, by decide +kernel⟩
  have documented := document_returning leaving 0 commentedSource
    commentedReturn (commentedReturn.toNode commentedSource) kind 0 none oneValue
  obtain ⟨merged, whole⟩ := documented.2.2 returnToken mem comment ends
  refine ⟨kind, mem, comment, ends, ?_⟩
  rw [merged, whole.mpr (by decide)]
  rfl

/-- A return statement without a comment, but with two slashes in a string. -/
def linkSource : Text := "return \"http://x\" +\n1;".toList

def linkReturn : Tree :=
  .node returnType 0 22 true none [
    .node "return".toList 0 6 false none [],
    .node "binary_expression".toList 7 21 true none [
      .node stringType 7 17 true (some "left".toList) [
        .node "\"".toList 7 8 false none [],
        .node "string_fragment".toList 8 16 true none [],
        .node "\"".toList 16 17 false none []],
      .node "+".toList 18 19 false (some "operator".toList) [],
      .node "number".toList 20 21 true (some "right".toList) []],
    .node ";".toList 21 22 false none []]

/-- The documentation of a return statement need not come from a comment. -/
theorem document_returning_without_comment :
    (∀ token ∈ (streamOf linkSource linkReturn).tokens, token.kind = .code) ∧
      ((document (δ := Nat) leaving ⟨streamOf linkSource linkReturn, 0⟩
        (linkReturn.toNode linkSource) 0 none).run oneValue).2 =
          oneValue.mergeInto 0 { type := .text "x\" +".toList } ∧
        oneValue.mergeInto 0 { type := .text "x\" +".toList } ≠ oneValue := by
  rw [streamOf_eq_of_sorted (by decide +kernel)]
  decide +kernel

end Binding

end CommentDocs
