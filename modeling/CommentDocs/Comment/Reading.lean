import CommentDocs.TypeExpr
import CommentDocs.Comment.Block
import CommentDocs.Comment.Doc
import CommentDocs.Text.Decoration

/-!
# Reading a documentation comment

The lines of a block are folded from top to bottom. A key line opens a section, and the
lines below it are added to that section. Five keys belong to the documented value
itself; any other key names a parameter or a property. A section whose key starts with
`TODO` is dropped up to the next line of key shape, wherever that line stands.

A reading may be restricted to one key. Then that key names a property even if it is one
of the five, and all other sections are dropped.
-/

namespace CommentDocs.Comment

open Text

/-- The keys that describe the documented value itself. -/
inductive ValueKey where
  | summary
  | description
  | tags
  | returns
  | examples
  deriving DecidableEq, Repr

namespace ValueKey

def name : ValueKey → Text
  | .summary => "summary".toList
  | .description => "description".toList
  | .tags => "tags".toList
  | .returns => "returns".toList
  | .examples => "examples".toList

/-- The key that a word spells; an example has two spellings. -/
def ofWord? (word : Text) : Option ValueKey :=
  if word = "summary".toList then some .summary
  else if word = "description".toList then some .description
  else if word = "tags".toList then some .tags
  else if word = "returns".toList then some .returns
  else if word = "example".toList || word = "examples".toList then some .examples
  else none

end ValueKey

/-- The word by which a key line is known: its one spelling for the keys of the value
itself, and the word as it stands for all others. -/
def sectionName (word : Text) : Text :=
  match ValueKey.ofWord? word with
  | some key => key.name
  | none => word

/-- Whether a section is a reminder rather than documentation. -/
def isReminder (name : Text) : Bool :=
  "TODO".toList.isPrefixOf name

/-- What the lines of a section are added to. -/
inductive Section where
  | value (key : ValueKey)
  | entry (name : Text)
  deriving DecidableEq, Repr

def appendToLast (line : Text) : List Text → List Text
  | [] => [line]
  | [last] => [appendLine last line]
  | first :: next :: rest => first :: appendToLast line (next :: rest)

namespace CommentDoc

def addLine (doc : CommentDoc) (key : ValueKey) (line : Text) : CommentDoc :=
  let line := undecorated line
  match key with
  | .summary => { doc with summary := appendLine doc.summary line }
  | .description => { doc with description := appendLine doc.description line }
  | .tags => { doc with tags := doc.tags ++ words line }
  | .returns =>
    { doc with returns := { doc.returns with summary := appendLine doc.returns.summary line } }
  | .examples => { doc with examples := appendToLast line doc.examples }

/-- Open a section of the value itself. Every examples section starts a new example, and
a returns section may start with a type and its tags. -/
def openSection (doc : CommentDoc) (key : ValueKey) (content : Text) : CommentDoc :=
  match key with
  | .examples => { doc with examples := doc.examples ++ [[]] }.addLine key content
  | .returns =>
    match TypeExpr.leadingType? content with
    | some (type, prose) =>
      { doc with
        returns := { doc.returns with
          type := type
          tags := doc.returns.tags ++ TypeExpr.inlineTags content } }.addLine key prose
    | none => doc.addLine key content
  | _ => doc.addLine key content

/-- The documentation of a parameter or property so far. -/
def entry (doc : CommentDoc) (name : Text) : EntryDoc :=
  (doc.entries.get? name).getD {}

/-- Open the section of a parameter or property: its tags are collected, and content that
is nothing but a type sets the type. -/
def openEntry (doc : CommentDoc) (name content : Text) : CommentDoc :=
  let old := doc.entry name
  let tagged := { old with tags := old.tags ++ TypeExpr.inlineTags content }
  let typed :=
    match TypeExpr.wholeType? content with
    | some type => { tagged with type := type, isOptional := TypeExpr.isOptional type }
    | none => tagged
  { doc with entries := doc.entries.put name typed }

def addEntryLine (doc : CommentDoc) (name line : Text) : CommentDoc :=
  let old := doc.entry name
  { doc with
    entries := doc.entries.put name
      { old with summary := appendLine old.summary (trimStart line) } }

end CommentDoc

/-- A reading under way: what has been read, the open section, and whether a reminder is
being dropped. -/
structure Reading where
  doc : CommentDoc := {}
  current : Option Section := none
  dropping : Bool := false
  deriving DecidableEq, Repr

namespace Reading

def openKey (onlyKey : Option Text) (reading : Reading) (line : KeyLine) : Reading :=
  let name := sectionName line.key
  if isReminder name then { reading with current := none, dropping := true }
  else
    match onlyKey, ValueKey.ofWord? line.key with
    | some only, _ =>
      if name = only then
        { reading with
          doc := reading.doc.openEntry name line.content
          current := some (.entry name) }
      else { reading with current := none }
    | none, some key =>
      { reading with
        doc := reading.doc.openSection key line.content
        current := some (.value key) }
    | none, none =>
      { reading with
        doc := reading.doc.openEntry name line.content
        current := some (.entry name) }

def addLine (reading : Reading) (line : Text) : Reading :=
  match reading.current with
  | some (.value key) => { reading with doc := reading.doc.addLine key line }
  | some (.entry name) => { reading with doc := reading.doc.addEntryLine name line }
  | none => reading

def step (onlyKey : Option Text) (reading : Reading) (line : ScannedLine) : Reading :=
  if reading.dropping && (KeyLine.ofLine? line.text).isNone then reading
  else
    let reading := { reading with dropping := false }
    match line.keyLine with
    | some key => reading.openKey onlyKey key
    | none => reading.addLine line.text

end Reading

/-- The documentation that a comment text holds, restricted to the section named `onlyKey`
if one is given; the empty name restricts nothing. A text that is no documentation holds
none. -/
def read (text : Text) (onlyKey : Option Text) : CommentDoc :=
  match Block.ofText? text with
  | some block => (block.scan.foldl (Reading.step (onlyKey.filter (· ≠ []))) {}).doc
  | none => {}

end CommentDocs.Comment
