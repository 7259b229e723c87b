import CommentDocs.Graph.Store
import CommentDocs.Text.Blank
import CommentDocs.Text.Lines
import CommentDocs.Text.Markup

/-!
# Labels of values

The type label of a value is the type that its documentation notes, or its own type. A
linked type is shown by the name of the value it links to. In an outline a value is shown
by its name, its type label and the first line of its summary, as markup.
-/

namespace CommentDocs

open Markup Text

variable {δ : Type}

namespace Store

def typeLabel (store : Store δ) (value : Value δ) : Text :=
  match value.doc.type with
  | .text [] => value.type
  | .text noted => noted
  | .value id => ((store.value? id).map Value.label).getD ModelType.any
  | .datum _ => ModelType.any

def styledType (store : Store δ) (value : Value δ) : Text :=
  styled "cyan".toList (store.typeLabel value)

/-- A name before a label; a question mark behind it says that the value may be missing. A
value without a name has only the label. -/
def named (name : Text) (value : Value δ) (label : Text) : Text :=
  if name = [] then label
  else
    let mark := if value.doc.isOptional then "?: " else ": "
    styled "bold".toList name ++ mark.toList ++ label

def summaryNote (value : Value δ) : Text :=
  match trim value.doc.summary with
  | [] => []
  | summary => " - ".toList ++ escape (firstLine summary)

def label (store : Store δ) (name : Text) (value : Value δ) : Text :=
  named name value (store.styledType value) ++ summaryNote value

section Shown

variable (store : Store δ) {name : Text} {value : Value δ}

/-- The name before a label is shown with what it says about missing values. -/
theorem shown_named_append (smooth : '\\' ∉ name) (label rest : Text) :
    shown (named name value label ++ rest) =
      (if name = [] then [] else name ++ (if value.doc.isOptional then "?: " else ": ").toList) ++
        shown (label ++ rest) := by
  have bold : IsStyle "bold".toList := ⟨⟨'b', rfl, rfl⟩, by decide, by decide⟩
  unfold named
  split
  · rfl
  · have mark : '[' ∉ (if value.doc.isOptional then "?: " else ": ").toList ∧
        '\\' ∉ (if value.doc.isOptional then "?: " else ": ").toList := by
      split <;> decide
    rw [List.append_assoc, List.append_assoc, List.append_assoc, shown_styled_append bold smooth,
      shown_append_of_plain mark]

theorem shown_summaryNote (smooth : '\\' ∉ value.doc.summary) :
    shown (summaryNote value) =
      if trim value.doc.summary = [] then []
      else " - ".toList ++ firstLine (trim value.doc.summary) := by
  have smooth' : '\\' ∉ firstLine (trim value.doc.summary) := fun listed =>
    smooth (mem_of_mem_trim ((List.takeWhile_sublist _).subset listed))
  unfold summaryNote
  split
  · rename_i empty
    rw [if_pos empty]
    rfl
  · rename_i visible
    rw [if_neg visible, shown_append_of_plain (by decide), shown_escape smooth']

/-- A label shows the name, whether the value may be missing, its type label and the first line
of its summary. -/
theorem shown_label (name_smooth : '\\' ∉ name) (type_smooth : '\\' ∉ store.typeLabel value)
    (summary_smooth : '\\' ∉ value.doc.summary) :
    shown (store.label name value) =
      (if name = [] then [] else name ++ (if value.doc.isOptional then "?: " else ": ").toList) ++
        store.typeLabel value ++
          if trim value.doc.summary = [] then []
          else " - ".toList ++ firstLine (trim value.doc.summary) := by
  have cyan : IsStyle "cyan".toList := ⟨⟨'c', rfl, rfl⟩, by decide, by decide⟩
  rw [label, shown_named_append name_smooth, styledType, shown_styled_append cyan type_smooth,
    shown_summaryNote summary_smooth, List.append_assoc]

end Shown

end Store

end CommentDocs
