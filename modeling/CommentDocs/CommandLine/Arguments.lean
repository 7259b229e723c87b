import CommentDocs.Text.Basic

/-!
# Arguments of a command line

Options come before the name of a command, then the command's own options and operands in
any order. A long option takes its value after `=` or from the next argument, a short one
from the rest of its argument or from the next one, whatever that looks like. Everything
behind `--` is an operand, and so is a single dash. An option given twice counts as given
last.
-/

namespace CommentDocs.CommandLine

inductive Misuse where
  | unknownOption (spelling : Text)
  | missingValue (option : Text)
  | needlessValue (option : Text)
  | missingCommand
  | unknownCommand (word : Text)
  | missingOperand
  | needlessOperand (operand : Text)
  deriving DecidableEq, Repr

def Misuse.message : Misuse → Text
  | .unknownOption spelling => "No such option: ".toList ++ spelling
  | .missingValue option => "Missing value of option: ".toList ++ option
  | .needlessValue option => "Option takes no value: ".toList ++ option
  | .missingCommand => "Missing command.".toList
  | .unknownCommand word => "No such command: ".toList ++ word
  | .missingOperand => "Missing argument.".toList
  | .needlessOperand operand => "Unexpected argument: ".toList ++ operand

structure OptionForm where
  name : Text
  letter : Option Char := none
  takesValue : Bool := true
  deriving DecidableEq, Repr

/-- The options with their values, in order, and the operands. An option that takes no
value has the empty one. -/
structure Scan where
  options : List (Text × Text) := []
  operands : List Text := []
  deriving DecidableEq, Repr

namespace Scan

def value? (scan : Scan) (name : String) : Option Text :=
  (scan.options.reverse.find? fun option => option.1 = name.toList).map (·.2)

def has (scan : Scan) (name : String) : Bool :=
  (scan.value? name).isSome

def withOptions (options : List (Text × Text)) (scan : Scan) : Scan :=
  { scan with options := options ++ scan.options }

def withOperand (operand : Text) (scan : Scan) : Scan :=
  { scan with operands := operand :: scan.operands }

end Scan

/-- What one argument gives: options, and the last one's name if its value is still to
come. -/
structure Given where
  options : List (Text × Text) := []
  awaiting : Option Text := none
  deriving DecidableEq, Repr

def lettersOf (forms : List OptionForm) : Text → Except Misuse Given
  | [] => .ok {}
  | letter :: rest =>
    match forms.find? fun form => form.letter = some letter with
    | none => .error (.unknownOption ['-', letter])
    | some form =>
      if form.takesValue then
        match rest with
        | [] => .ok { awaiting := some form.name }
        | value => .ok { options := [(form.name, value)] }
      else
        (lettersOf forms rest).map fun given =>
          { given with options := (form.name, []) :: given.options }

def wordOf (forms : List OptionForm) (word : Text) : Except Misuse Given :=
  let name := word.takeWhile (· ≠ '=')
  match forms.find? fun form => form.name = name with
  | none => .error (.unknownOption ("--".toList ++ name))
  | some form =>
    match form.takesValue, word.drop name.length with
    | true, [] => .ok { awaiting := some name }
    | true, _ :: value => .ok { options := [(name, value)] }
    | false, [] => .ok { options := [(name, [])] }
    | false, _ :: _ => .error (.needlessValue name)

/-- The options that an argument gives, unless it is an operand. -/
def givenBy? (forms : List OptionForm) : Text → Option (Except Misuse Given)
  | '-' :: '-' :: word => some (wordOf forms word)
  | '-' :: letter :: rest => some (lettersOf forms (letter :: rest))
  | _ => none

/-- Scan arguments. Unless options may follow operands, all is an operand from the first
one on. -/
def scan (forms : List OptionForm) (interspersed : Bool) :
    List Text → Except Misuse Scan
  | [] => .ok {}
  | argument :: rest =>
    if argument = "--".toList then .ok { operands := rest }
    else
      match givenBy? forms argument with
      | none =>
        if interspersed then (scan forms interspersed rest).map (·.withOperand argument)
        else .ok { operands := argument :: rest }
      | some (.error misuse) => .error misuse
      | some (.ok ⟨options, none⟩) =>
        (scan forms interspersed rest).map (·.withOptions options)
      | some (.ok ⟨options, some name⟩) =>
        match rest with
        | [] => .error (.missingValue name)
        | value :: rest =>
          (scan forms interspersed rest).map (·.withOptions (options ++ [(name, value)]))

inductive CommandName where
  | init
  | moduleId
  | comment
  | preprocess
  | document
  deriving DecidableEq, Repr

namespace CommandName

def word : CommandName → Text
  | .init => "init".toList
  | .moduleId => "module-id".toList
  | .comment => "comment".toList
  | .preprocess => "preprocess".toList
  | .document => "document".toList

def all : List CommandName :=
  [.init, .moduleId, .comment, .preprocess, .document]

def ofWord? (word : Text) : Option CommandName :=
  all.find? fun name => name.word = word

def forms : CommandName → List OptionForm
  | .init => [⟨"path".toList, some 'p', true⟩, ⟨"force".toList, none, false⟩]
  | .comment => [⟨"for-key".toList, some 'k', true⟩]
  | _ => []

end CommandName

inductive Command where
  /-- Write a settings file into a directory, over an old one if `force` says so. -/
  | init (directory : Text) (force : Bool)
  /-- Print the module identifiers of paths. -/
  | moduleId (paths : List Text)
  /-- Print what a comment says, wholly or about one key. -/
  | comment (file : Text) (key : Option Text)
  /-- Print a source without its documentation fences. -/
  | preprocess (file : Text)
  /-- Print the outline of a module. -/
  | document (file : Text)
  deriving DecidableEq, Repr

namespace Command

def single : List Text → Except Misuse Text
  | [] => .error .missingOperand
  | [operand] => .ok operand
  | _ :: operand :: _ => .error (.needlessOperand operand)

def ofArguments (name : CommandName) (arguments : List Text) : Except Misuse Command := do
  let found ← scan name.forms true arguments
  match name with
  | .init =>
    match found.operands with
    | [] => return .init ((found.value? "path").getD ['.']) (found.has "force")
    | operand :: _ => throw (.needlessOperand operand)
  | .moduleId =>
    match found.operands with
    | [] => throw .missingOperand
    | paths => return .moduleId paths
  | .comment => return .comment (← single found.operands) (found.value? "for-key")
  | .preprocess => return .preprocess (← single found.operands)
  | .document => return .document (← single found.operands)

end Command

/-- A command line up to the name of its command: the settings file and the level that it
chooses, and the arguments of the command. -/
structure Invocation where
  settings : Option Text
  level : Option Text
  command : CommandName
  arguments : List Text
  deriving DecidableEq, Repr

def commonForms : List OptionForm :=
  [⟨"config".toList, some 'c', true⟩, ⟨"log-level".toList, some 'l', true⟩]

def Invocation.ofArguments (arguments : List Text) : Except Misuse Invocation := do
  let found ← scan commonForms false arguments
  match found.operands with
  | [] => throw .missingCommand
  | word :: rest =>
    match CommandName.ofWord? word with
    | none => throw (.unknownCommand word)
    | some command =>
      return { settings := found.value? "config", level := found.value? "log-level",
               command, arguments := rest }

end CommentDocs.CommandLine
