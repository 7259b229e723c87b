import CommentDocs.Proofs.Comment.Passage
import Mathlib.Data.List.Induction

/-!
# Reading a comment line by line is reading it passage by passage

The fold over the lines carries an open section and a flag for reminders. Between two key
lines neither changes in a way that matters: the section is the target of the passage that
is being read, and lines are dropped only where there is no target. So a passage acts on
the documentation as a whole (`CommentDoc.add`), whatever was read before it, and the
fields can be computed from the passages under each key (`ofPassages_concat`).
-/

namespace CommentDocs.Comment

open Text

theorem joinWith_cons_ne_nil (separator : Char) {piece : Text} (h : piece ≠ [])
    (rest : List Text) : joinWith separator (piece :: rest) ≠ [] := by
  cases rest <;> simp [joinWith, h]

/-- Adding a line below joined lines joins it to them. -/
theorem appendLine_joined (lines : List Text) (line : Text) :
    appendLine (joined lines) line = joined (lines ++ [line]) := by
  unfold joined
  rw [List.dropWhile_append]
  cases visible : lines.dropWhile (·.isEmpty) with
  | nil => cases line <;> simp [appendLine, joinWith]
  | cons first rest =>
    have first_ne : first ≠ [] := by
      intro empty
      have := List.head?_dropWhile_not (fun text : Text => text.isEmpty) lines
      simp [visible, empty] at this
    have nonempty : joinWith '\n' (first :: rest) ≠ [] := joinWith_cons_ne_nil '\n' first_ne rest
    simp only [appendLine, List.isEmpty_iff, nonempty, if_false, List.isEmpty_cons,
      Bool.false_eq_true]
    exact (joinWith_concat '\n' (List.cons_ne_nil _ _) line).symm

theorem foldl_appendLine_joined (lines more : List Text) :
    more.foldl appendLine (joined lines) = joined (lines ++ more) := by
  induction more generalizing lines with
  | nil => simp
  | cons line more ih => rw [List.foldl_cons, appendLine_joined, ih, List.append_assoc]; rfl

theorem foldl_appendLine_nil (lines : List Text) : lines.foldl appendLine [] = joined lines :=
  foldl_appendLine_joined [] lines

theorem appendToLast_concat (line last : Text) (texts : List Text) :
    appendToLast line (texts ++ [last]) = texts ++ [appendLine last line] := by
  induction texts with
  | nil => rfl
  | cons first rest ih =>
    cases rest with
    | nil => rfl
    | cons next more => simpa [appendToLast] using ih

namespace CommentDoc

/-- Open the section of a passage with the content of its key line. -/
def openTarget (doc : CommentDoc) (content : Text) : Option Section → CommentDoc
  | none => doc
  | some (.value key) => doc.openSection key content
  | some (.entry name) => doc.openEntry name content

def addToTarget (target : Option Section) (doc : CommentDoc) (line : Text) : CommentDoc :=
  match target with
  | none => doc
  | some (.value key) => doc.addLine key line
  | some (.entry name) => doc.addEntryLine name line

def add (onlyKey : Option Text) (doc : CommentDoc) (passage : Passage) : CommentDoc :=
  passage.body.foldl (addToTarget (passage.target? onlyKey))
    (doc.openTarget passage.key.content (passage.target? onlyKey))

variable (doc : CommentDoc) (body : List Text)

theorem foldl_addToTarget_none : body.foldl (addToTarget none) doc = doc := by
  induction body with
  | nil => rfl
  | cons line body ih => exact ih

theorem foldl_addLine_summary :
    body.foldl (addToTarget (some (.value .summary))) doc =
      { doc with summary := (body.map undecorated).foldl appendLine doc.summary } := by
  induction body generalizing doc with
  | nil => rfl
  | cons line body ih => rw [List.foldl_cons, ih]; rfl

theorem foldl_addLine_description :
    body.foldl (addToTarget (some (.value .description))) doc =
      { doc with description := (body.map undecorated).foldl appendLine doc.description } := by
  induction body generalizing doc with
  | nil => rfl
  | cons line body ih => rw [List.foldl_cons, ih]; rfl

theorem foldl_addLine_tags :
    body.foldl (addToTarget (some (.value .tags))) doc =
      { doc with tags := doc.tags ++ (body.map undecorated).flatMap words } := by
  induction body generalizing doc with
  | nil => simp
  | cons line body ih =>
    rw [List.foldl_cons, ih]
    simp [addToTarget, addLine, List.append_assoc]

theorem foldl_addLine_returns :
    body.foldl (addToTarget (some (.value .returns))) doc =
      { doc with
        returns := { doc.returns with
          summary := (body.map undecorated).foldl appendLine doc.returns.summary } } := by
  induction body generalizing doc with
  | nil => rfl
  | cons line body ih => rw [List.foldl_cons, ih]; rfl

/-- Lines of an examples section go to the example that its key line started. -/
theorem foldl_addLine_examples {texts : List Text} {last : Text}
    (h : doc.examples = texts ++ [last]) :
    body.foldl (addToTarget (some (.value .examples))) doc =
      { doc with examples := texts ++ [(body.map undecorated).foldl appendLine last] } := by
  induction body generalizing doc last with
  | nil => simp [← h]
  | cons line body ih =>
    have grown : (addToTarget (some (.value .examples)) doc line).examples =
        texts ++ [appendLine last (undecorated line)] := by
      simp [addToTarget, addLine, h, appendToLast_concat]
    rw [List.foldl_cons, ih _ grown]
    rfl

theorem foldl_addEntryLine (name : Text) (entry : EntryDoc) :
    body.foldl (addToTarget (some (.entry name)))
      { doc with entries := doc.entries.put name entry } = { doc with
        entries := doc.entries.put name
          { entry with summary := (body.map trimStart).foldl appendLine entry.summary } } := by
  induction body generalizing entry with
  | nil => rfl
  | cons line body ih =>
    rw [List.foldl_cons]
    have grown :
        addToTarget (some (.entry name)) { doc with entries := doc.entries.put name entry } line =
        { doc with
          entries := doc.entries.put name
            { entry with summary := appendLine entry.summary (trimStart line) } } := by
      simp [addToTarget, addEntryLine, CommentDoc.entry]
    rw [grown, ih]
    rfl

end CommentDoc

def EntryDoc.add (entry : EntryDoc) (passage : Passage) : EntryDoc where
  type := passage.type?.getD entry.type
  summary := (passage.body.map trimStart).foldl appendLine entry.summary
  description := entry.description
  tags := entry.tags ++ TypeExpr.inlineTags passage.key.content
  isOptional := (passage.type?.map TypeExpr.isOptional).getD entry.isOptional

theorem CommentDoc.add_entry {onlyKey : Option Text} {passage : Passage} {name : Text}
    (doc : CommentDoc) (h : passage.target? onlyKey = some (.entry name)) :
    doc.add onlyKey passage =
      { doc with entries := doc.entries.put name ((doc.entry name).add passage) } := by
  rw [CommentDoc.add, h, openTarget, openEntry, foldl_addEntryLine]
  cases typed : TypeExpr.wholeType? passage.key.content <;>
    simp [EntryDoc.add, Passage.type?, typed]

namespace Reading

variable (onlyKey : Option Text)

/-- Lines are dropped only where no section is open. -/
def DropsUnopened (reading : Reading) : Prop :=
  reading.dropping = true → reading.current = none

/-- A line that opens nothing is added to the open section, whether or not lines are being
dropped. -/
theorem step_plain {reading : Reading} (drops : reading.DropsUnopened) (line : Text) :
    ∃ after, reading.step onlyKey ⟨line, none⟩ = after ∧
      after.doc = reading.doc.addToTarget reading.current line ∧
      after.current = reading.current ∧ after.DropsUnopened := by
  refine ⟨_, rfl, ?_⟩
  unfold step
  split
  · rename_i skipped
    simp only [Bool.and_eq_true] at skipped
    refine ⟨?_, rfl, drops⟩
    rw [drops skipped.1]
    rfl
  · obtain ⟨doc, current, dropping⟩ := reading
    rcases current with _ | (key | name) <;>
      exact ⟨rfl, rfl, fun dropped => by cases dropped⟩

theorem foldl_step_plain {reading : Reading} (drops : reading.DropsUnopened) (body : List Text) :
    ∃ after, (body.map (⟨·, none⟩)).foldl (step onlyKey) reading = after ∧
      after.doc = body.foldl (CommentDoc.addToTarget reading.current) reading.doc := by
  induction body generalizing reading with
  | nil => exact ⟨_, rfl, rfl⟩
  | cons line body ih =>
    obtain ⟨middle, stepped, doc, current, drops⟩ := step_plain onlyKey drops line
    obtain ⟨after, run, result⟩ := ih drops
    refine ⟨after, by rw [List.map_cons, List.foldl_cons, stepped, run], ?_⟩
    rw [result, current, doc, List.foldl_cons]

/-- A key line opens the target of its passage, whatever was read before. -/
theorem openKey_eq (reading : Reading) (passage : Passage) :
    (reading.openKey onlyKey passage.key).doc =
        reading.doc.openTarget passage.key.content (passage.target? onlyKey) ∧
      (reading.openKey onlyKey passage.key).current = passage.target? onlyKey ∧
      (reading.dropping = false → (reading.openKey onlyKey passage.key).DropsUnopened) := by
  unfold openKey Passage.target? DropsUnopened
  by_cases reminder : isReminder (sectionName passage.key.key)
  · simp [reminder, CommentDoc.openTarget]
  · rcases onlyKey with _ | only
    · cases value : ValueKey.ofWord? passage.key.key <;>
        simp [reminder, CommentDoc.openTarget]
    · by_cases wanted : sectionName passage.key.key = only
      · subst wanted
        simp [reminder, CommentDoc.openTarget]
      · simp [reminder, wanted, CommentDoc.openTarget]

/-- Reading the lines of a passage adds the passage. -/
theorem foldl_step_scanned (reading : Reading) {passage : Passage}
    (h : KeyLine.ofLine? passage.opening = some passage.key) :
    (passage.scanned.foldl (step onlyKey) reading).doc = reading.doc.add onlyKey passage := by
  have opened : reading.step onlyKey ⟨passage.opening, some passage.key⟩ =
      { reading with dropping := false }.openKey onlyKey passage.key := by
    simp [step, h]
  obtain ⟨doc, current, drops⟩ :=
    openKey_eq onlyKey { reading with dropping := false } passage
  obtain ⟨after, run, result⟩ := foldl_step_plain onlyKey (drops rfl) passage.body
  rw [Passage.scanned, List.foldl_cons, opened, run, result, current, doc]
  rfl

theorem foldl_step_passages (reading : Reading) {ps : List Passage}
    (h : ∀ passage ∈ ps, KeyLine.ofLine? passage.opening = some passage.key) :
    ((ps.flatMap Passage.scanned).foldl (step onlyKey) reading).doc =
      ps.foldl (CommentDoc.add onlyKey) reading.doc := by
  induction ps generalizing reading with
  | nil => rfl
  | cons passage ps ih =>
    rw [List.flatMap_cons, List.foldl_append,
      ih _ fun other mem => h other (List.mem_cons_of_mem _ mem),
      foldl_step_scanned onlyKey reading (h passage List.mem_cons_self), List.foldl_cons]

end Reading

section Fields

variable {onlyKey : Option Text} {ps : List Passage} {passage : Passage}

theorem feeding_concat (target : Section) :
    feeding onlyKey target (ps ++ [passage]) =
      feeding onlyKey target ps ++
        if passage.target? onlyKey = some target then [passage] else [] := by
  by_cases h : passage.target? onlyKey = some target <;> simp [feeding, h]

theorem feeding_concat_self {target : Section} (h : passage.target? onlyKey = some target) :
    feeding onlyKey target (ps ++ [passage]) = feeding onlyKey target ps ++ [passage] := by
  rw [feeding_concat, if_pos h]

theorem feeding_concat_other {target : Section} (h : passage.target? onlyKey ≠ some target) :
    feeding onlyKey target (ps ++ [passage]) = feeding onlyKey target ps := by
  rw [feeding_concat, if_neg h, List.append_nil]

theorem entryName?_eq_some_iff {name : Text} :
    passage.entryName? onlyKey = some name ↔ passage.target? onlyKey = some (.entry name) := by
  unfold Passage.entryName?
  rcases passage.target? onlyKey with _ | (key | other) <;> simp

theorem mem_entryNames {name : Text} :
    name ∈ entryNames onlyKey ps ↔ feeding onlyKey (.entry name) ps ≠ [] := by
  simp [entryNames, feeding, List.filter_eq_nil_iff, entryName?_eq_some_iff]

theorem entryNames_concat_self {name : Text} (h : passage.target? onlyKey = some (.entry name)) :
    entryNames onlyKey (ps ++ [passage]) =
      if name ∈ entryNames onlyKey ps then entryNames onlyKey ps
      else entryNames onlyKey ps ++ [name] := by
  have named : passage.entryName? onlyKey = some name := entryName?_eq_some_iff.mpr h
  simp only [entryNames, List.filterMap_append, List.filterMap_cons, named, List.filterMap_nil,
    Table.eraseDups_concat, List.mem_eraseDups]

theorem entryNames_concat_other (h : passage.entryName? onlyKey = none) :
    entryNames onlyKey (ps ++ [passage]) = entryNames onlyKey ps := by
  simp [entryNames, h]

/-- The entry of a name so far is what the passages under that name say. -/
theorem entry_ofPassages (name : Text) :
    (CommentDoc.ofPassages onlyKey ps).entry name =
      .ofPassages (feeding onlyKey (.entry name) ps) := by
  unfold CommentDoc.entry
  simp only [CommentDoc.ofPassages, Table.get?_tabulate]
  split
  · rfl
  · rename_i absent
    rw [mem_entryNames, not_not] at absent
    rw [absent]
    rfl

theorem EntryDoc.ofPassages_concat (ps : List Passage) (passage : Passage) :
    EntryDoc.ofPassages (ps ++ [passage]) = (EntryDoc.ofPassages ps).add passage := by
  unfold EntryDoc.ofPassages EntryDoc.add
  cases typed : passage.type? <;>
    simp [typed, foldl_appendLine_joined]

theorem ReturnDoc.ofPassages_concat (ps : List Passage) (passage : Passage) :
    ReturnDoc.ofPassages (ps ++ [passage]) =
      { type := (passage.leading?.map (·.1)).getD (ReturnDoc.ofPassages ps).type
        summary := passage.proseLines.foldl appendLine (ReturnDoc.ofPassages ps).summary
        tags := (ReturnDoc.ofPassages ps).tags ++ passage.returnTags } := by
  unfold ReturnDoc.ofPassages
  cases leading : passage.leading? <;>
    simp [leading, foldl_appendLine_joined]

theorem CommentDoc.ofPassages_concat_none (h : passage.target? onlyKey = none) :
    CommentDoc.ofPassages onlyKey (ps ++ [passage]) = CommentDoc.ofPassages onlyKey ps := by
  have named : passage.entryName? onlyKey = none := by simp [Passage.entryName?, h]
  simp [CommentDoc.ofPassages, feeding_concat, h, entryNames_concat_other named]

theorem CommentDoc.ofPassages_concat_entry {name : Text}
    (h : passage.target? onlyKey = some (.entry name)) :
    CommentDoc.ofPassages onlyKey (ps ++ [passage]) =
      (CommentDoc.ofPassages onlyKey ps).add onlyKey passage := by
  have others (other : Text) (ne : other ≠ name) :
      feeding onlyKey (.entry other) (ps ++ [passage]) = feeding onlyKey (.entry other) ps :=
    feeding_concat_other (by simp [h, Ne.symm ne])
  have value (key : ValueKey) :
      feeding onlyKey (.value key) (ps ++ [passage]) = feeding onlyKey (.value key) ps :=
    feeding_concat_other (by simp [h])
  have grown : EntryDoc.ofPassages (feeding onlyKey (.entry name) (ps ++ [passage])) =
      ((CommentDoc.ofPassages onlyKey ps).entry name).add passage := by
    rw [feeding_concat_self h, EntryDoc.ofPassages_concat, entry_ofPassages]
  have table : (CommentDoc.ofPassages onlyKey (ps ++ [passage])).entries =
      (CommentDoc.ofPassages onlyKey ps).entries.put name
        (((CommentDoc.ofPassages onlyKey ps).entry name).add passage) := by
    rw [← grown]
    simp only [CommentDoc.ofPassages, entryNames_concat_self h]
    split
    · rename_i old
      exact (Table.put_tabulate_of_mem old (Table.nodup_eraseDups _) _
        (fun other => EntryDoc.ofPassages (feeding onlyKey (.entry other) (ps ++ [passage])))
        fun other _ ne => by rw [others other ne]).symm
    · rename_i new
      exact (Table.put_tabulate_of_not_mem new _
        (fun other => EntryDoc.ofPassages (feeding onlyKey (.entry other) (ps ++ [passage])))
        fun other mem => by rw [others other (by rintro rfl; exact new mem)]).symm
  rw [CommentDoc.add_entry _ h, ← table]
  simp only [CommentDoc.ofPassages, value]

theorem CommentDoc.ofPassages_concat_value {key : ValueKey}
    (h : passage.target? onlyKey = some (.value key)) :
    CommentDoc.ofPassages onlyKey (ps ++ [passage]) =
      (CommentDoc.ofPassages onlyKey ps).add onlyKey passage := by
  have named : passage.entryName? onlyKey = none := by simp [Passage.entryName?, h]
  have names : entryNames onlyKey (ps ++ [passage]) = entryNames onlyKey ps :=
    entryNames_concat_other named
  rw [CommentDoc.add, h]
  cases key with
  | summary =>
    rw [foldl_addLine_summary]
    simp [CommentDoc.ofPassages, feeding_concat, h, names, openTarget, openSection, addLine,
      Passage.valueLines, appendLine_joined, foldl_appendLine_joined]
  | description =>
    rw [foldl_addLine_description]
    simp [CommentDoc.ofPassages, feeding_concat, h, names, openTarget, openSection, addLine,
      Passage.valueLines, appendLine_joined, foldl_appendLine_joined]
  | tags =>
    rw [foldl_addLine_tags]
    simp [CommentDoc.ofPassages, feeding_concat, h, names, openTarget, openSection, addLine,
      Passage.valueLines]
  | returns =>
    rw [foldl_addLine_returns]
    cases leading : TypeExpr.leadingType? passage.key.content <;>
      simp [CommentDoc.ofPassages, ReturnDoc.ofPassages_concat, feeding_concat, h, names,
        openTarget, openSection, addLine, leading, Passage.leading?, Passage.proseLines,
        Passage.returnTags]
  | examples =>
    have opened : ((CommentDoc.ofPassages onlyKey ps).openTarget passage.key.content
        (some (.value .examples))).examples =
          (CommentDoc.ofPassages onlyKey ps).examples ++ [undecorated passage.key.content] := by
      simp [openTarget, openSection, addLine, appendToLast_concat, appendLine]
    rw [foldl_addLine_examples _ _ opened]
    simp [CommentDoc.ofPassages, feeding_concat, h, names, openTarget, openSection, addLine,
      Passage.valueLines, ← foldl_appendLine_nil, appendLine]

/-- One more passage changes the fields as if it were added to the documentation so far. -/
theorem CommentDoc.ofPassages_concat (ps : List Passage) (passage : Passage) :
    CommentDoc.ofPassages onlyKey (ps ++ [passage]) =
      (CommentDoc.ofPassages onlyKey ps).add onlyKey passage := by
  rcases h : passage.target? onlyKey with _ | (key | name)
  · rw [ofPassages_concat_none h, CommentDoc.add, h, foldl_addToTarget_none]
    rfl
  · exact ofPassages_concat_value h
  · exact ofPassages_concat_entry h

theorem CommentDoc.foldl_add (ps : List Passage) :
    ps.foldl (CommentDoc.add onlyKey) {} = CommentDoc.ofPassages onlyKey ps := by
  induction ps using List.reverseRecOn with
  | nil => rfl
  | append_singleton ps passage ih =>
    rw [List.foldl_append, List.foldl_cons, List.foldl_nil, ih, ofPassages_concat]

end Fields

/-- A documentation comment says what its passages say, also in a restricted reading. -/
theorem read_eq_ofPassages {text : Text} {block : Block} (h : Block.ofText? text = some block)
    (onlyKey : Option Text) :
    read text onlyKey =
      CommentDoc.ofPassages (onlyKey.filter (· ≠ [])) (passages block.scan) := by
  have keys : ∀ passage ∈ passages block.scan,
      KeyLine.ofLine? passage.opening = some passage.key := fun passage mem =>
    Block.ofLine?_of_mem_scan (exists_line_of_mem_passages mem) rfl
  have run := Reading.foldl_step_passages (onlyKey.filter (· ≠ [])) {} keys
  rw [scanned_passages h, CommentDoc.foldl_add] at run
  simp only [read, h, run]

/-- The documentation of a comment is computed section by section. Every line of the comment
stands in one passage; a passage under a reminder has no target, and each field collects the
lines of the passages that are added to it, in their order: one example for each examples
passage, one entry for each name that is not a key of the value itself. -/
theorem read_sectionwise {text : Text} {block : Block} (h : Block.ofText? text = some block) :
    (passages block.scan).flatMap Passage.lines = block.lines ∧
      read text none = CommentDoc.ofPassages none (passages block.scan) :=
  ⟨lines_passages h, read_eq_ofPassages h none⟩

/-- Repeated keys of each kind, between them a reminder and other sections. -/
theorem read_sectionwise_repeated_key :
    let text := " summary: First.\n     Second.\n tags: public\n a: [t] B?\n     c\n".toList ++
      " example: one\n     1\n TODO: x\n     y\n tags: const\n returns: [u] Number\n".toList ++
      "     the sum\n examples: two\n a: [v] C\n     d\n returns: of all\n".toList ++
      " summary: Third.".toList
    Block.ofText? text = some ⟨textLines text, 1⟩ ∧
      read text none =
        { summary := "First.\nSecond.\nThird.".toList
          tags := ["public".toList, "const".toList]
          examples := ["one\n1".toList, "two".toList]
          returns :=
            { type := "Number".toList, summary := "the sum\nof all".toList, tags := ["u".toList] }
          entries := ⟨[("a".toList,
            { type := "C".toList
              summary := "c\nd".toList
              tags := ["t".toList, "v".toList] })]⟩ } := by
  intro text
  have block : Block.ofText? text = some ⟨textLines text, 1⟩ := by decide +kernel
  exact ⟨block, (read_sectionwise block).2.trans (by decide +kernel)⟩

end CommentDocs.Comment
