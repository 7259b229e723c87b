import CommentDocs.Doc.Record
import CommentDocs.Graph.Store
import CommentDocs.Syntax.Node

/-!
# Steps of a session

A session builds a value graph and works on it step by step. Values and scopes are named
by handles. A value may be given steps that complete it; they run when the value is
evaluated for the first time.
-/

namespace CommentDocs.Session

/-- The value that is put in place of a fragment's type. -/
inductive TypeSource where
  | handle (handle : Text)
  | fresh (type : Text) (name : Option Text)
  deriving DecidableEq, Repr

/-- A node as a step describes it; its kind is a word that is checked when the step runs. -/
structure NodeRequest where
  kind : Text
  span : Syntax.Span := ⟨0, 0⟩
  bodySpan : Option Syntax.Span := none
  keyName : Option Text := none
  value : Option Text := none
  deriving DecidableEq, Repr

/-- A token as a step describes it; its kind is a word too. -/
structure TokenRequest where
  kind : Text
  text : Text
  span : Syntax.Span
  deriving DecidableEq, Repr

inductive Step where
  | value (handle type : Text) (name : Option Text) (origin : Origin) (module : Option Text)
      (completion : Option (List Step))
  | scope (handle : Text) (parent : Option Text)
  | setVariable (scope name value : Text)
  | lookup (scope name : Text)
  | reach (scope : Text) (path : List Text)
  | setProperty (owner name value : Text)
  | addParameter (owner name value : Text)
  | appendReturn (owner value : Text)
  | getProperty (owner name : Text) (handle : Option Text)
  | evaluate (value : Text)
  | merge (value : Text) (fragment : Record) (type : Option TypeSource)
  | resolve (type scope : Text)
  | openStream (text : Text) (tokens : List TokenRequest)
  | tokensInside (span : Syntax.Span)
  | tokensBefore (span : Syntax.Span)
  | textOf (span : Syntax.Span)
  | document (scope : Text) (node : NodeRequest) (context : Option NodeRequest)
  | show (value : Text)

namespace Step

mutual

/-- The number of steps in a step, its completions included. -/
def count : Step → Nat
  | .value _ _ _ _ _ (some steps) => countAll steps + 1
  | _ => 1

def countAll : List Step → Nat
  | [] => 0
  | step :: rest => count step + countAll rest

end

end Step

end CommentDocs.Session
