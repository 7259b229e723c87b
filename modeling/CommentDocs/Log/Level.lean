import CommentDocs.Text.Blank
import CommentDocs.Text.Quoted

/-!
# Log levels

Five levels order the events of a run. A level is read from its name in any case.
-/

namespace CommentDocs

open Text

inductive Level where
  | debug
  | info
  | warning
  | error
  | critical
  deriving DecidableEq, Repr

namespace Level

def all : List Level :=
  [.debug, .info, .warning, .error, .critical]

def number : Level → Nat
  | .debug => 10
  | .info => 20
  | .warning => 30
  | .error => 40
  | .critical => 50

def name : Level → Text
  | .debug => "DEBUG".toList
  | .info => "INFO".toList
  | .warning => "WARNING".toList
  | .error => "ERROR".toList
  | .critical => "CRITICAL".toList

/-- The capital of a letter, as far as level names need it: the Latin letters, and the
dotless i, whose capital is the Latin I. -/
def capital (c : Char) : Char :=
  if c = 'ı' then 'I' else c.toUpper

def ofWord? (word : Text) : Option Level :=
  all.find? fun level => level.name = word.map capital

/-- The complaint about a word that names no level. -/
def unsupported (word : Text) : Text :=
  "Unsupported log level: ".toList ++ quoted word

/-- The level that a text names once blanks around it are gone; the complaint quotes the
text as it stands. -/
def resolve (text : Text) : Except Text Level :=
  match ofWord? (trim text) with
  | some level => .ok level
  | none => .error (unsupported text)

theorem mem_all (level : Level) : level ∈ all := by
  cases level <;> simp [all]

@[simp] theorem ofWord?_name (level : Level) : ofWord? level.name = some level := by
  cases level <;> decide

end Level

end CommentDocs
