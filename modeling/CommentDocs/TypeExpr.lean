import CommentDocs.Text.Blank
import CommentDocs.Text.Word

/-!
# Type annotations in comment text

An annotation stands on a key line, possibly after bracketed tags:
`[const] [readonly] ui.Widget[]?`. Brackets also occur inside a type, so a line can
often be read in more than one way. The rule is that as many tags are split off as
leave a type behind: `[a]` alone is the type `[a]`, and `[a] [b]` is the type `[b]`
after one tag.

`wholeType?` reads a line that is nothing but an annotation, `leadingType?` one that
goes on with prose, and `inlineTags` collects the tags wherever they stand.
-/

namespace CommentDocs.TypeExpr

open Text

/-- Characters of a type: names, dotted paths, slashed module ids, unions, arrays. -/
def isTypeChar (c : Char) : Bool :=
  isWord c || c = '|' || c = '[' || c = ']' || c = '/' || c = '.'

/-- The tag in brackets at the start of a text and what follows the closing bracket.
A tag has at least one character and ends at the first `]`. -/
def tagAt? : Text → Option (Text × Text)
  | '[' :: rest =>
    match rest.dropWhile (· ≠ ']') with
    | _ :: after => if rest.takeWhile (· ≠ ']') = [] then none
        else some (rest.takeWhile (· ≠ ']'), after)
    | [] => none
  | _ => none

theorem length_of_tagAt? {text tag after : Text} (h : tagAt? text = some (tag, after)) :
    after.length < text.length := by
  unfold tagAt? at h
  split at h
  · rename_i rest
    have shorter := (List.dropWhile_suffix (l := rest) (fun c : Char => decide (c ≠ ']'))).length_le
    grind
  · simp at h

theorem length_trimStart_le (text : Text) : (trimStart text).length ≤ text.length :=
  (List.dropWhile_suffix isBlank).length_le

/-- What is left of a text after none, one, two, … of the tags at its start, each
taken with the blanks after it. -/
def afterTags (text : Text) : List Text :=
  match _h : tagAt? text with
  | none => [text]
  | some (_, after) => text :: afterTags (trimStart after)
termination_by text.length
decreasing_by
  exact Nat.lt_of_le_of_lt (length_trimStart_le after) (length_of_tagAt? _h)

/-- The longest type at the start of a text, with an optional mark if one follows, and
the rest of the text. -/
def typeAt? (text : Text) : Option (Text × Text) :=
  if text.takeWhile isTypeChar = [] then none
  else
    match text.dropWhile isTypeChar with
    | '?' :: rest => some (text.takeWhile isTypeChar ++ ['?'], rest)
    | rest => some (text.takeWhile isTypeChar, rest)

def onlyType? (text : Text) : Option Text :=
  match typeAt? (trimStart text) with
  | some (type, rest) => if allBlank rest then some type else none
  | none => none

/-- The type that opens a text, when a blank or the end of the text follows it. -/
def openingType? (text : Text) : Option (Text × Text) :=
  match typeAt? (trimStart text) with
  | some (type, []) => some (type, [])
  | some (type, c :: rest) => if isBlank c then some (type, c :: rest) else none
  | none => none

/-- The type of a line that holds nothing but tags and a type; as many tags as possible
are split off. -/
def wholeType? (content : Text) : Option Text :=
  (afterTags content).reverse.findSome? onlyType?

/-- Type names that are recognised without punctuation, in lower case. -/
def builtinTypes : List Text :=
  ["any".toList, "array".toList, "boolean".toList, "date".toList, "domnode".toList,
   "element".toList, "error".toList, "function".toList, "integer".toList, "node".toList,
   "null".toList, "number".toList, "object".toList, "promise".toList, "regexp".toList,
   "string".toList, "undefined".toList]

/-- Characters that mark a word as a type rather than prose. -/
def isTypePunctuation (c : Char) : Bool :=
  c = '|' || c = '[' || c = ']' || c = '/' || c = '.' || c = '?'

/-- Whether the word `type` at the start of `content` counts as a type although prose may
follow: it is tagged, it has type punctuation, or it names a built-in type. -/
def opensWithType (content type : Text) : Bool :=
  (trimStart content).head? = some '[' || type.any isTypePunctuation ||
    builtinTypes.contains (lowerAscii type)

/-- Split `content` into the type that opens it and the remaining prose. A plain
sentence has no type. -/
def leadingType? (content : Text) : Option (Text × Text) :=
  match wholeType? content with
  | some type => some (type, [])
  | none =>
    match (afterTags content).reverse.findSome? openingType? with
    | some (type, rest) => if opensWithType content type then some (type, rest) else none
    | none => none

def inlineTags (content : Text) : List Text :=
  match content with
  | [] => []
  | c :: rest =>
    match _h : tagAt? (c :: rest) with
    | some (tag, after) => tag :: inlineTags after
    | none => inlineTags rest
termination_by content.length
decreasing_by
  · exact length_of_tagAt? _h
  · simp

def withoutOptionalMark (type : Text) : Text :=
  match (trimEnd type).reverse with
  | '?' :: reversed => reversed.reverse
  | _ => type

def isOptional (type : Text) : Bool :=
  (trimEnd type).reverse.head? = some '?'

/-- Characters of the names that a scope binds, and the dot between them. -/
def isPathChar (c : Char) : Bool :=
  isWord c || c = '$' || c = '.'

/-- The dotted path that a type names, once trailing marks such as `?` and `[]` are off. -/
def path (type : Text) : List Text :=
  splitOn '.' (dropWhileEnd (fun c => !isPathChar c) type)

end CommentDocs.TypeExpr
