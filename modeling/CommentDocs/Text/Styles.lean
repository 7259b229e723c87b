import CommentDocs.Text.Basic

/-!
# Style codes of terminals

An escape character and a bracket start a code that styles what a terminal shows next. The
code ends with a letter, and between them stand digits and separators only. Texts that may
end up in a file are printed without such codes.
-/

namespace CommentDocs.Text

def escapeChar : Char := '\x1b'

/-- What may stand between the start of a style code and its last letter. -/
def isStyleParameter (c : Char) : Bool :=
  c.isDigit || c = ';' || c = '?'

def afterStyleCode? : Text → Option Text
  | c :: '[' :: rest =>
    if c = escapeChar then
      match rest.dropWhile isStyleParameter with
      | last :: others => if last.isAlpha then some others else none
      | [] => none
    else none
  | _ => none

theorem length_afterStyleCode? {text rest : Text} (h : afterStyleCode? text = some rest) :
    rest.length < text.length := by
  unfold afterStyleCode? at h
  split at h
  · next c inner =>
    have shorter := (List.dropWhile_suffix (l := inner) isStyleParameter).length_le
    grind
  · simp at h

def withoutStyles (text : Text) : Text :=
  match _found : afterStyleCode? text with
  | some rest => withoutStyles rest
  | none =>
    match text with
    | [] => []
    | c :: rest => c :: withoutStyles rest
termination_by text.length
decreasing_by
  · exact length_afterStyleCode? _found
  · simp

end CommentDocs.Text
