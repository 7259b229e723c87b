import CommentDocs.Text.Basic

/-!
# Documentation fences

Code that exists only for documentation is fenced by `/*=====` and `=====*/`, so that a
JavaScript engine reads it as a comment. Before a file is parsed the fences are removed
and the fenced code stays. Removing one fence may join the parts of another, so the
removal is repeated until no fence is left.
-/

namespace CommentDocs.Fence

open Text

def leastBars : Nat := 5

def opensWithBars (text : Text) : Bool :=
  leastBars ≤ (text.takeWhile (· = '=')).length

/-- What follows the fence at the start of a text. An opening fence takes all equal signs
that come, a closing fence all of them up to its end. -/
def afterFence? : Text → Option Text
  | '/' :: '*' :: rest => if opensWithBars rest then some (rest.dropWhile (· = '=')) else none
  | '=' :: rest =>
    if opensWithBars ('=' :: rest) then
      match rest.dropWhile (· = '=') with
      | '*' :: '/' :: after => some after
      | _ => none
    else none
  | _ => none

theorem length_of_afterFence? {text after : Text} (h : afterFence? text = some after) :
    after.length < text.length := by
  unfold afterFence? at h
  split at h
  · rename_i rest
    have shorter := (List.dropWhile_suffix (l := rest) (fun c : Char => decide (c = '='))).length_le
    grind
  · rename_i rest
    have shorter := (List.dropWhile_suffix (l := rest) (fun c : Char => decide (c = '='))).length_le
    grind
  · simp at h

/-- A text with every fence removed that one pass from left to right meets. -/
def sweep (text : Text) : Text :=
  match text with
  | [] => []
  | c :: rest =>
    match _h : afterFence? (c :: rest) with
    | some after => sweep after
    | none => c :: sweep rest
termination_by text.length
decreasing_by
  · exact length_of_afterFence? _h
  · simp

/-- A text without fences: sweeps are repeated as long as they remove something. -/
def strip (text : Text) : Text :=
  if (sweep text).length < text.length then strip (sweep text) else text
termination_by text.length

end CommentDocs.Fence
