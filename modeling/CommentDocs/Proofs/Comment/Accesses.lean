import CommentDocs.Proofs.Comment.Sectionwise

/-!
# A reading finds what it reaches for

Reading a comment reaches for three things without asking whether they are there: the first
line of the text, the last example when a line continues it, and the record of a key when a
line continues its section. The operations of a reading answer in any case; here are the same
operations with a failure where the thing is missing (`readChecked`). That they never fail
rests on one relation between the open section and what has been read, `Reading.Grounded`:
whatever opened the section has put there what its lines reach for. Every line keeps it.
-/

namespace CommentDocs.Comment

open Text

/-- What a reading reaches for. -/
inductive Access where
  | firstLine
  | lastExample
  | entry (name : Text)
  deriving DecidableEq, Repr

/-- A result, or the first access that found nothing. -/
abbrev Checked := Except Access

namespace CommentDoc

/-- Add a line to the last example, which has to be there. -/
def continueExample (doc : CommentDoc) (line : Text) : Checked CommentDoc :=
  match doc.examples.getLast? with
  | some last => .ok { doc with examples := doc.examples.dropLast ++ [appendLine last line] }
  | none => .error .lastExample

def addLineChecked (doc : CommentDoc) (key : ValueKey) (line : Text) : Checked CommentDoc :=
  match key with
  | .examples => doc.continueExample (undecorated line)
  | _ => .ok (doc.addLine key line)

def openSectionChecked (doc : CommentDoc) (key : ValueKey) (content : Text) :
    Checked CommentDoc :=
  match key with
  | .examples => { doc with examples := doc.examples ++ [[]] }.addLineChecked key content
  | _ => .ok (doc.openSection key content)

/-- Add one line to the summary of a parameter or property, whose record has to be there. -/
def addEntryLineChecked (doc : CommentDoc) (name line : Text) : Checked CommentDoc :=
  match doc.entries.get? name with
  | some entry =>
    .ok { doc with
      entries := doc.entries.put name
        { entry with summary := appendLine entry.summary (trimStart line) } }
  | none => .error (.entry name)

end CommentDoc

namespace Reading

def openKeyChecked (onlyKey : Option Text) (reading : Reading) (line : KeyLine) :
    Checked Reading :=
  if isReminder (sectionName line.key) then .ok { reading with current := none, dropping := true }
  else
    match onlyKey, ValueKey.ofWord? line.key with
    | none, some key => do
      let doc ← reading.doc.openSectionChecked key line.content
      return { reading with doc, current := some (.value key) }
    | _, _ => .ok (reading.openKey onlyKey line)

def addLineChecked (reading : Reading) (line : Text) : Checked Reading :=
  match reading.current with
  | some (.value key) => do return { reading with doc := ← reading.doc.addLineChecked key line }
  | some (.entry name) => do
    return { reading with doc := ← reading.doc.addEntryLineChecked name line }
  | none => .ok reading

def stepChecked (onlyKey : Option Text) (reading : Reading) (line : ScannedLine) :
    Checked Reading :=
  if reading.dropping && (KeyLine.ofLine? line.text).isNone then .ok reading
  else
    let reading := { reading with dropping := false }
    match line.keyLine with
    | some key => reading.openKeyChecked onlyKey key
    | none => reading.addLineChecked line.text

end Reading

/-- The documentation that a comment text holds, unless an access finds nothing. -/
def readChecked (text : Text) (onlyKey : Option Text) : Checked CommentDoc :=
  if textLines text = [] then .error .firstLine
  else
    match Block.ofText? text with
    | some block => do
      let reading ← block.scan.foldlM (Reading.stepChecked (onlyKey.filter (· ≠ []))) {}
      return reading.doc
    | none => .ok {}

/-- A line that continues examples needs one. -/
example : Reading.addLineChecked { current := some (.value .examples) } "x".toList =
    .error .lastExample := rfl

/-- The text of a comment has a first line, be it empty. -/
theorem textLines_ne_nil (text : Text) : textLines text ≠ [] := by
  intro empty
  exact splitOn_ne_nil '\n' _ (List.map_eq_nil_iff.mp empty)

namespace CommentDoc

variable {doc : CommentDoc}

theorem continueExample_eq_ok (examples : doc.examples ≠ []) (line : Text) :
    doc.continueExample line = .ok { doc with examples := appendToLast line doc.examples } := by
  obtain ⟨before, last, split⟩ : ∃ before last, doc.examples = before ++ [last] :=
    ⟨_, _, (List.dropLast_concat_getLast examples).symm⟩
  unfold continueExample
  rw [split, List.getLast?_concat, List.dropLast_concat, appendToLast_concat]

/-- Only lines of examples need that there is one. -/
theorem addLineChecked_eq_ok {key : ValueKey} (examples : key = .examples → doc.examples ≠ [])
    (line : Text) : doc.addLineChecked key line = .ok (doc.addLine key line) := by
  cases key with
  | examples => exact continueExample_eq_ok (examples rfl) _
  | summary | description | tags | returns => rfl

/-- Opening examples starts the example that the content of the key line goes to. -/
theorem openSectionChecked_eq_ok (key : ValueKey) (content : Text) :
    doc.openSectionChecked key content = .ok (doc.openSection key content) := by
  cases key with
  | examples =>
    have started : doc.examples ++ [[]] ≠ [] :=
      List.append_ne_nil_of_right_ne_nil _ (List.cons_ne_nil _ _)
    change addLineChecked { doc with examples := doc.examples ++ [[]] } .examples content = _
    rw [addLineChecked_eq_ok fun _ => started]
    rfl
  | summary | description | tags | returns => rfl

theorem addEntryLineChecked_eq_ok {name : Text} {entry : EntryDoc}
    (found : doc.entries.get? name = some entry) (line : Text) :
    doc.addEntryLineChecked name line = .ok (doc.addEntryLine name line) := by
  unfold addEntryLineChecked addEntryLine CommentDoc.entry
  rw [found, Option.getD_some]

end CommentDoc

theorem appendToLast_ne_nil (line : Text) (texts : List Text) : appendToLast line texts ≠ [] := by
  cases texts with
  | nil => exact List.cons_ne_nil _ _
  | cons first rest => cases rest <;> exact List.cons_ne_nil _ _

namespace Reading

/-- The open section has what its lines reach for: an example where lines continue one, and a
record where they continue the section of a key. -/
structure Grounded (reading : Reading) : Prop where
  lastExample : reading.current = some (.value .examples) → reading.doc.examples ≠ []
  entry : ∀ name, reading.current = some (.entry name) →
    ∃ entry, reading.doc.entries.get? name = some entry

variable {reading : Reading}

/-- With no section open nothing is reached for. -/
theorem Grounded.of_current_eq_none (closed : reading.current = none) : reading.Grounded where
  lastExample opened := by
    rw [closed] at opened
    cases opened
  entry name opened := by
    rw [closed] at opened
    cases opened

/-- Sections of the value itself need an example at most. -/
theorem Grounded.of_value {key : ValueKey} (opened : reading.current = some (.value key))
    (examples : key = .examples → reading.doc.examples ≠ []) : reading.Grounded where
  lastExample same := by
    rw [opened] at same
    exact examples (Section.value.inj (Option.some.inj same))
  entry name same := by
    rw [opened] at same
    cases same

theorem Grounded.of_entry {name : Text} {entry : EntryDoc}
    (opened : reading.current = some (.entry name))
    (found : reading.doc.entries.get? name = some entry) : reading.Grounded where
  lastExample same := by
    rw [opened] at same
    cases same
  entry other same := by
    rw [opened] at same
    obtain rfl : name = other := Section.entry.inj (Option.some.inj same)
    exact ⟨entry, found⟩

theorem Grounded.of_put {name : Text} {entry : EntryDoc} {entries : Table EntryDoc}
    (opened : reading.current = some (.entry name))
    (put : reading.doc.entries = entries.put name entry) : reading.Grounded := by
  apply Grounded.of_entry opened
  rw [put, Table.get?_put, if_pos rfl]

/-- A key line puts there what the lines below it reach for. -/
theorem grounded_openKey (onlyKey : Option Text) (reading : Reading) (line : KeyLine) :
    (reading.openKey onlyKey line).Grounded := by
  unfold openKey
  dsimp only
  split
  · exact .of_current_eq_none rfl
  · split
    · split
      · exact .of_put rfl rfl
      · exact .of_current_eq_none rfl
    · refine .of_value rfl ?_
      rintro rfl
      exact appendToLast_ne_nil _ _
    · exact .of_put rfl rfl

/-- A line below a key line takes nothing away. -/
theorem Grounded.addLine (grounded : reading.Grounded) (line : Text) :
    (reading.addLine line).Grounded := by
  unfold Reading.addLine
  split
  · rename_i opened
    refine .of_value opened ?_
    rintro rfl
    exact appendToLast_ne_nil _ _
  · exact .of_put ‹_› rfl
  · exact grounded

/-- Every line keeps what the open section reaches for. -/
theorem Grounded.step (grounded : reading.Grounded) (onlyKey : Option Text) (line : ScannedLine) :
    (reading.step onlyKey line).Grounded := by
  unfold Reading.step
  split
  · exact grounded
  · have resumed : Grounded { reading with dropping := false } :=
      ⟨grounded.lastExample, grounded.entry⟩
    dsimp only
    split
    · exact grounded_openKey onlyKey _ _
    · exact resumed.addLine line.text

theorem Grounded.foldl_step (grounded : reading.Grounded) (onlyKey : Option Text)
    (lines : List ScannedLine) : (lines.foldl (Reading.step onlyKey) reading).Grounded := by
  induction lines generalizing reading with
  | nil => exact grounded
  | cons line lines ih => exact ih (grounded.step onlyKey line)

theorem openKeyChecked_eq_ok (onlyKey : Option Text) (reading : Reading) (line : KeyLine) :
    reading.openKeyChecked onlyKey line = .ok (reading.openKey onlyKey line) := by
  unfold openKeyChecked
  split
  · rename_i reminder
    simp only [openKey, reminder, if_true]
  · rename_i kept
    cases onlyKey with
    | some only => rfl
    | none =>
      cases word : ValueKey.ofWord? line.key with
      | none => rfl
      | some key =>
        dsimp only
        rw [CommentDoc.openSectionChecked_eq_ok]
        simp only [openKey, kept, word]
        rfl

theorem Grounded.addLineChecked_eq_ok (grounded : reading.Grounded) (line : Text) :
    reading.addLineChecked line = .ok (reading.addLine line) := by
  unfold Reading.addLineChecked Reading.addLine
  cases opened : reading.current with
  | none => rfl
  | some target =>
    cases target with
    | value key =>
      dsimp only
      rw [CommentDoc.addLineChecked_eq_ok fun same => grounded.lastExample (same ▸ opened)]
      rfl
    | entry name =>
      obtain ⟨entry, found⟩ := grounded.entry name opened
      dsimp only
      rw [CommentDoc.addEntryLineChecked_eq_ok found]
      rfl

theorem Grounded.stepChecked_eq_ok (grounded : reading.Grounded) (onlyKey : Option Text)
    (line : ScannedLine) :
    reading.stepChecked onlyKey line = .ok (reading.step onlyKey line) := by
  unfold stepChecked Reading.step
  split
  · rfl
  · have resumed : Grounded { reading with dropping := false } :=
      ⟨grounded.lastExample, grounded.entry⟩
    cases line.keyLine with
    | some key => exact openKeyChecked_eq_ok onlyKey _ key
    | none => exact resumed.addLineChecked_eq_ok line.text

theorem Grounded.foldlM_stepChecked (grounded : reading.Grounded) (onlyKey : Option Text)
    (lines : List ScannedLine) :
    lines.foldlM (stepChecked onlyKey) reading =
      .ok (lines.foldl (Reading.step onlyKey) reading) := by
  induction lines generalizing reading with
  | nil => rfl
  | cons line lines ih =>
    rw [List.foldlM_cons, grounded.stepChecked_eq_ok]
    exact ih (grounded.step onlyKey line)

end Reading

/-- No text makes a reading fail: with every access checked it comes to the same documentation.
Before each line the open section has what the line reaches for, whatever came before: an
example where the line would continue one, and a record of the key where it would continue the
section of a parameter or property. -/
theorem readChecked_eq_ok (text : Text) (onlyKey : Option Text) :
    readChecked text onlyKey = .ok (read text onlyKey) ∧
      ∀ block before line after, Block.ofText? text = some block →
        block.scan = before ++ line :: after →
        let reading := before.foldl (Reading.step (onlyKey.filter (· ≠ []))) {}
        (reading.current = some (.value .examples) → reading.doc.examples ≠ []) ∧
        ∀ name, reading.current = some (.entry name) → name ∈ reading.doc.entries.names := by
  have start : Reading.Grounded {} := .of_current_eq_none rfl
  refine ⟨?_, ?_⟩
  · unfold readChecked read
    rw [if_neg (textLines_ne_nil text)]
    cases Block.ofText? text with
    | none => rfl
    | some block =>
      dsimp only
      rw [start.foldlM_stepChecked]
      rfl
  · intro block before line after _ _
    have grounded := start.foldl_step (onlyKey.filter (· ≠ [])) before
    refine ⟨grounded.lastExample, ?_⟩
    intro name opened
    obtain ⟨entry, found⟩ := grounded.entry name opened
    rw [← Table.contains_iff_mem_names, Table.contains, found]
    rfl

end CommentDocs.Comment
