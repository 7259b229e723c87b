import CommentDocs.Text.Basic

/-!
# Tokens of a source

Only comments matter for documentation, so a token is a comment of one of three kinds or
any other piece of code. A comment between `/*` and `*/` is a block comment. A comment
that starts with `//` is a trailing comment if code stands before it on its line, and the
comments on adjacent lines of their own form one token.

Tokens are looked up by position. `inside` answers the tokens within a range and `before`
those that end where a range starts, nearest first; both search the start and end
positions by bisection.
-/

namespace CommentDocs.Syntax

structure Span where
  start : Nat
  stop : Nat
  deriving DecidableEq, Repr

inductive TokenKind where
  | blockComment
  | lineComments
  | trailingComment
  | code
  deriving DecidableEq, Repr

namespace TokenKind

def name : TokenKind → Text
  | .blockComment => "block_comment".toList
  | .lineComments => "line_block_comment".toList
  | .trailingComment => "line_comment".toList
  | .code => "code".toList

def all : List TokenKind :=
  [.blockComment, .lineComments, .trailingComment, .code]

def ofName? (word : Text) : Option TokenKind :=
  all.find? fun kind => kind.name = word

end TokenKind

/-- A token; the text of a comment does not include its marks. -/
structure Token where
  kind : TokenKind
  text : Text
  span : Span
  deriving DecidableEq, Repr

/-- A search by bisection for the first item between `low` and `high` that does not satisfy
`p`, in a list where those that do come first. -/
def bisect {α : Type} (p : α → Bool) (items : List α) (low high : Nat) : Nat :=
  if low < high then
    let middle := (low + high) / 2
    match items[middle]? with
    | some item =>
      if p item then bisect p items (middle + 1) high else bisect p items low middle
    | none => low
  else low
termination_by high - low

/-- A text with its tokens in the order of their start positions. -/
structure TokenStream where
  text : Text := []
  tokens : List Token := []
  deriving DecidableEq, Repr

namespace TokenStream

/-- The stream of a text and its tokens in any order; tokens that start together keep their
order. -/
def ofTokens (text : Text) (tokens : List Token) : TokenStream :=
  ⟨text, tokens.mergeSort fun a b => a.span.start ≤ b.span.start⟩

def startsBefore (stream : TokenStream) (position : Nat) : Nat :=
  bisect (fun token : Token => token.span.start < position) stream.tokens 0 stream.tokens.length

def endsBy (stream : TokenStream) (position : Nat) : Nat :=
  bisect (fun token : Token => token.span.stop ≤ position) stream.tokens 0 stream.tokens.length

def inside (stream : TokenStream) (span : Span) : List Token :=
  (stream.tokens.take (stream.endsBy span.stop)).drop (stream.startsBefore span.start)

/-- The tokens that end at or before the start of a range, nearest first. -/
def before (stream : TokenStream) (span : Span) : List Token :=
  (stream.tokens.take (stream.endsBy span.start)).reverse

def textOf (stream : TokenStream) (span : Span) : Text :=
  Text.slice stream.text span.start span.stop

end TokenStream

end CommentDocs.Syntax
