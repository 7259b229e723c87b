import CommentDocs.Syntax.Node
import CommentDocs.Syntax.Traversal
import CommentDocs.Text.Blank

/-!
# The tokens of a syntax tree

Each leaf of the tree becomes a token, except that line comments which stand on adjacent
lines of their own are joined into one.
-/

namespace CommentDocs.Syntax

open Text

/-- Whether nothing but blanks stands before a position on its line. -/
def startsLine (source : Text) (position : Nat) : Bool :=
  ((source.take position).reverse.takeWhile (· ≠ '\n')).all isBlank

/-- Whether a comment that starts at `position` continues a token: only blanks with one
newline are between them. -/
def continues (source : Text) (previous : Token) (position : Nat) : Bool :=
  let gap := slice source previous.span.stop position
  previous.kind = .lineComments && allBlank gap && occurrences '\n' gap = 1

/-- The text of a block comment between its marks; the closing mark may be missing. -/
def blockBody (raw : Text) : Text :=
  if "*/".toList.isSuffixOf raw then (raw.take (raw.length - 2)).drop 2 else raw.drop 2

/-- The tokens so far, the last one first, after one more leaf. -/
def addLeaf (source : Text) (tokens : List Token) (leaf : Tree) : List Token :=
  let span := leaf.span source
  let raw := slice source span.start span.stop
  if !leaf.isComment then ⟨.code, raw, span⟩ :: tokens
  else if "/*".toList.isPrefixOf raw then ⟨.blockComment, blockBody raw, span⟩ :: tokens
  else if !startsLine source span.start then ⟨.trailingComment, raw.drop 2, span⟩ :: tokens
  else
    match tokens with
    | [] => [⟨.lineComments, raw.drop 2, span⟩]
    | previous :: earlier =>
      if continues source previous span.start then
        ⟨.lineComments, previous.text ++ '\n' :: raw.drop 2, ⟨previous.span.start, span.stop⟩⟩ ::
          earlier
      else ⟨.lineComments, raw.drop 2, span⟩ :: previous :: earlier

def tokensOf (source : Text) (tree : Tree) : List Token :=
  (tree.leaves.foldl (addLeaf source) []).reverse

def streamOf (source : Text) (tree : Tree) : TokenStream :=
  .ofTokens source (tokensOf source tree)

/-- Tokens that are in order already need no sorting. -/
theorem streamOf_eq_of_sorted {source : Text} {tree : Tree}
    (sorted : (tokensOf source tree).Pairwise fun a b => a.span.start ≤ b.span.start) :
    streamOf source tree = ⟨source, tokensOf source tree⟩ := by
  have same := List.mergeSort_of_pairwise
    (sorted.imp fun h => decide_eq_true h : (tokensOf source tree).Pairwise fun a b =>
      decide (a.span.start ≤ b.span.start))
  simp only [streamOf, TokenStream.ofTokens, same]

inductive ParseFailure where
  /-- No parser is installed. -/
  | missing
  /-- The parser does not load. -/
  | broken (reason : Text)
  deriving DecidableEq, Repr

def ParseFailure.message : ParseFailure → Text
  | .missing => "JavaScript parsing requires tree_sitter_languages.".toList
  | .broken reason =>
    "tree-sitter parser for 'javascript' is unavailable: ".toList ++ reason

end CommentDocs.Syntax
