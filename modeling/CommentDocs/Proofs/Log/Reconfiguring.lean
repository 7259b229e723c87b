import CommentDocs.Log.Submission

/-!
# Configuring the journal again

A configuration takes all old handlers away and sets the level, so what the file receives
afterwards depends on the last configuration alone; a level that does not exist is refused
before anything is touched. From then on every event whose level is high enough is written
as one line, in the order of the events, unless the console, which comes first, cannot show
it: the file is then not reached.
-/

namespace CommentDocs.Log

inductive Call where
  | configure (level : Text) (toFile : Bool)
  | submit (submission : Submission)
  deriving DecidableEq, Repr

namespace Call

def level? : Call → Option Level
  | .configure level _ => Level.ofWord? (Text.trim level)
  | .submit _ => none

/-- The entry that a call hands to the handlers; a call that is no proper call hands in none. -/
def handed? : Call → Option Entry
  | .configure _ _ => none
  | .submit submission => submission.entry.toOption

def isRefused : Call → Bool
  | .configure level _ => (Level.ofWord? (Text.trim level)).isNone
  | .submit _ => false

end Call

/-- An event of the level or above. -/
def Entry.IsDue (level : Level) (entry : Entry) : Prop :=
  (level.number : Int) ≤ entry.number

instance (level : Level) (entry : Entry) : Decidable (entry.IsDue level) :=
  inferInstanceAs (Decidable ((level.number : Int) ≤ entry.number))

/-- Each field that the console shows as a text is missing, null or a text. -/
def Entry.IsShowable (entry : Entry) : Prop :=
  ∀ name ∈ shownFields, ∀ datum, entry.fields.get? name = some datum →
    datum = .null ∨ ∃ text, datum = .text text

theorem notText?_eq_none_iff {entry : Entry} :
    notText? entry.fields = none ↔ entry.IsShowable := by
  rw [notText?, List.findSome?_eq_none_iff]
  refine forall₂_congr fun name _ => ?_
  cases found : entry.fields.get? name with
  | none => simp
  | some datum => cases datum <;> simp

theorem exists_notText?_of_not_isShowable {entry : Entry} (hidden : ¬entry.IsShowable) :
    ∃ datum, notText? entry.fields = some (.notText datum) := by
  obtain ⟨fault, found⟩ := Option.ne_none_iff_exists'.mp (mt notText?_eq_none_iff.mp hidden)
  obtain ⟨name, -, told⟩ := List.exists_of_findSome?_eq_some found
  split at told
  case h_4 datum _ _ _ => exact ⟨datum, by rw [found, ← told]⟩
  all_goals cases told

instance (entry : Entry) : Decidable entry.IsShowable :=
  decidable_of_iff _ notText?_eq_none_iff

/-- A detail that is asked for can be shown, whatever the call has under its name. -/
theorem isShowable_withDetails_iff (entry : Entry) (origin : Origin) :
    ({ entry with fields := origin.withDetails entry.fields } : Entry).IsShowable ↔
      (asksFor "stack_info".toList entry.fields = true ∨
        ∀ datum, entry.fields.get? "stack".toList = some datum →
          datum = .null ∨ ∃ text, datum = .text text) ∧
      (asksFor "exc_info".toList entry.fields = true ∧ origin.failure.isSome = true ∨
        ∀ datum, entry.fields.get? "exception".toList = some datum →
          datum = .null ∨ ∃ text, datum = .text text) := by
  unfold Entry.IsShowable
  rw [shownFields, List.forall_mem_cons, List.forall_mem_singleton]
  dsimp only
  refine and_congr ?_ ?_
  · rw [Origin.get?_stack]
    split
    case isTrue asks =>
      refine iff_of_true (fun datum here => .inr ⟨origin.stack, ?_⟩) (.inl asks)
      exact (Option.some.inj here).symm
    case isFalse quiet => rw [or_iff_right quiet]
  · rw [Origin.get?_exception]
    split
    case isTrue asks =>
      cases origin.failure with
      | none => simp only [Option.isSome_none, Bool.false_eq_true, and_false, false_or]; rfl
      | some text =>
        refine iff_of_true (fun datum here => .inr ⟨text, ?_⟩) (.inl ⟨asks, rfl⟩)
        exact (Option.some.inj here).symm
    case isFalse quiet => rw [or_iff_right fun told => quiet told.1]

/-- The lines that calls write to the file at a level: one for each event of that level or
above that the console can show. -/
def writtenLines (level : Level) (calls : List Call) : List (Table Datum) :=
  ((calls.filterMap Call.handed?).filter fun entry =>
    entry.IsDue level ∧ entry.IsShowable).map Entry.line

theorem writtenLines_of_handed?_eq_none (level : Level) {call : Call}
    (silent : call.handed? = none) : writtenLines level [call] = [] := by
  simp [writtenLines, silent]

theorem writtenLines_of_handed?_eq_some (level : Level) {call : Call} {entry : Entry}
    (found : call.handed? = some entry) :
    writtenLines level [call] =
      if entry.IsDue level ∧ entry.IsShowable then [entry.line] else [] := by
  by_cases written : entry.IsDue level ∧ entry.IsShowable <;> simp [writtenLines, found, written]

theorem writtenLines_cons (level : Level) (call : Call) (rest : List Call) :
    writtenLines level (call :: rest) = writtenLines level [call] ++ writtenLines level rest := by
  rw [writtenLines, writtenLines, writtenLines, ← List.map_append, ← List.filter_append,
    ← List.filterMap_append]
  rfl

/-- The journal that a program leaves behind, whether it fails or not. -/
def leaving {ε : Type} (program : EStateM ε Journal Unit) (journal : Journal) : Journal :=
  match program.run journal with
  | .ok _ rest => rest
  | .error _ rest => rest

namespace Journal

/-- The journal after a call; a program goes on after one that fails. -/
def after (journal : Journal) : Call → Journal
  | .configure level toFile => leaving (configure level toFile) journal
  | .submit submission => leaving (submit submission) journal

def afterAll (journal : Journal) (calls : List Call) : Journal :=
  calls.foldl after journal

section Configure

variable {text : Text} {level : Level}

def handlersFor (level : Level) (toFile : Bool) : List Handler :=
  (outlets toFile).map fun outlet => ⟨outlet, level.number⟩

/-- The journal with the level and the handlers of a configuration, and no others. -/
def configured (journal : Journal) (level : Level) (toFile : Bool) : Journal :=
  { journal with least := level.number, handlers := handlersFor level toFile }

/-- A loop that only changes the journal does not fail. -/
theorem run_forM_modify {ε α : Type} (change : Journal → α → Journal) (items : List α)
    (journal : Journal) :
    (items.forM fun item => (modify (change · item) : EStateM ε Journal Unit)).run journal =
      .ok () (items.foldl change journal) := by
  induction items generalizing journal with
  | nil => rfl
  | cons item rest ih => exact ih (change journal item)

theorem foldl_remove {stale rest : List Handler} {journal : Journal}
    (here : journal.handlers = stale ++ rest) :
    stale.foldl remove journal = { journal with handlers := rest } := by
  -- The loop goes over a copy: the journal has the stale handlers still to come and the rest.
  induction stale generalizing journal with
  | nil =>
    rw [List.nil_append] at here
    rw [List.foldl_nil, ← here]
  | cons handler stale ih =>
    have taken : (journal.remove handler).handlers = stale ++ rest := by
      simp [remove, here]
    rw [List.foldl_cons, ih taken, remove]

theorem foldl_add (journal : Journal) (least : Int) (targets : List Outlet) :
    targets.foldl (fun journal outlet => journal.add ⟨outlet, least⟩) journal =
      { journal with
        handlers := journal.handlers ++ targets.map fun outlet => ⟨outlet, least⟩ } := by
  induction targets generalizing journal with
  | nil => simp
  | cons outlet targets ih =>
    rw [List.foldl_cons, ih, add, List.append_assoc]
    rfl

/-- However many handlers there were, only those of the configuration are left. -/
theorem run_configure_of_known (known : Level.ofWord? (Text.trim text) = some level)
    (toFile : Bool) (journal : Journal) :
    (configure text toFile).run journal = .ok () (journal.configured level toFile) := by
  have resolved : Level.resolve text = .ok level := by rw [Level.resolve, known]
  have emptied : journal.handlers.foldl remove journal = { journal with handlers := [] } :=
    foldl_remove (List.append_nil _).symm
  have filled := foldl_add { journal with handlers := [] } level.number (outlets toFile)
  simp only [configure, resolved, ofExcept, EStateM.run_bind, EStateM.run_pure, EStateM.run_get,
    run_forM_modify, emptied, filled, EStateM.run_modify]
  rfl

/-- A level that does not exist is refused before anything is touched. -/
theorem run_configure_of_unknown (unknown : Level.ofWord? (Text.trim text) = none)
    (toFile : Bool) (journal : Journal) :
    (configure text toFile).run journal = .error (Level.unsupported text) journal := by
  have refused : Level.resolve text = .error (Level.unsupported text) := by
    rw [Level.resolve, unknown]
  rw [configure, refused]
  rfl

end Configure

section Events

variable {level : Level} {journal : Journal}

/-- A journal in the state in which a configuration with the file has left it. -/
structure IsConfigured (journal : Journal) (level : Level) : Prop where
  least : journal.least = level.number
  handlers : journal.handlers = handlersFor level true

theorem isConfigured_configured (journal : Journal) (level : Level) :
    (journal.configured level true).IsConfigured level :=
  ⟨rfl, rfl⟩

theorem run_dispatch_of_not_due (configured : journal.IsConfigured level) {entry : Entry}
    (low : ¬entry.IsDue level) : (dispatch entry).run journal = .ok () journal := by
  have below : ¬journal.least ≤ entry.number := configured.least ▸ low
  simp [dispatch, below]

/-- The console takes an event before the file does. -/
theorem run_dispatch_of_due (configured : journal.IsConfigured level) {entry : Entry}
    (due : entry.IsDue level) :
    (dispatch entry).run journal =
      match notText? entry.fields with
      | some fault => .error fault journal
      | none => .ok () (journal.write entry) := by
  have reached : journal.least ≤ entry.number := configured.least ▸ due
  have number : (level.number : Int) ≤ entry.number := due
  cases shown : notText? entry.fields <;>
    simp [dispatch, reached, configured.handlers, handlersFor, outlets, handle, number, shown]

theorem after_configure_of_unknown {text : Text} (journal : Journal) (toFile : Bool)
    (unknown : Level.ofWord? (Text.trim text) = none) :
    journal.after (.configure text toFile) = journal := by
  rw [after, leaving, run_configure_of_unknown unknown]

theorem after_configure_of_known {text : Text} (journal : Journal) (toFile : Bool)
    (known : Level.ofWord? (Text.trim text) = some level) :
    journal.after (.configure text toFile) = journal.configured level toFile := by
  rw [after, leaving, run_configure_of_known known]

theorem after_submit_of_error {submission : Submission} {fault : Fault} (journal : Journal)
    (failed : submission.entry = .error fault) : journal.after (.submit submission) = journal := by
  rw [after, leaving, submit, failed]
  rfl

theorem after_submit_of_ok {submission : Submission} {entry : Entry} (journal : Journal)
    (taken : submission.entry = .ok entry) :
    journal.after (.submit submission) = leaving (dispatch entry) journal := by
  rw [after, submit, taken]
  rfl

/-- The call of an event that is due fails if the console cannot show it. -/
theorem run_submit_of_not_isShowable (configured : journal.IsConfigured level)
    {submission : Submission} {entry : Entry} (taken : submission.entry = .ok entry)
    (due : entry.IsDue level) (hidden : ¬entry.IsShowable) :
    ∃ datum, (submit submission).run journal = .error (.notText datum) journal := by
  obtain ⟨datum, found⟩ := exists_notText?_of_not_isShowable hidden
  have failed := run_dispatch_of_due configured due
  rw [found] at failed
  refine ⟨datum, ?_⟩
  rw [submit, taken]
  exact failed

theorem leaving_dispatch (configured : journal.IsConfigured level) (entry : Entry) :
    leaving (dispatch entry) journal =
      if entry.IsDue level ∧ entry.IsShowable then journal.write entry else journal := by
  by_cases due : entry.IsDue level
  · rw [leaving, run_dispatch_of_due configured due]
    by_cases shown : entry.IsShowable
    · rw [if_pos ⟨due, shown⟩, notText?_eq_none_iff.mpr shown]
    · rw [if_neg fun written => shown written.2]
      obtain ⟨datum, found⟩ := exists_notText?_of_not_isShowable shown
      rw [found]
  · rw [leaving, run_dispatch_of_not_due configured due, if_neg fun written => due written.1]

def writeLines (journal : Journal) (lines : List (Table Datum)) : Journal :=
  { journal with lines := journal.lines ++ lines }

@[simp] theorem writeLines_nil (journal : Journal) : journal.writeLines [] = journal := by
  simp [writeLines]

theorem writeLines_writeLines (journal : Journal) (lines more : List (Table Datum)) :
    (journal.writeLines lines).writeLines more = journal.writeLines (lines ++ more) := by
  simp [writeLines]

theorem IsConfigured.writeLines (configured : journal.IsConfigured level)
    (lines : List (Table Datum)) : (journal.writeLines lines).IsConfigured level :=
  ⟨configured.least, configured.handlers⟩

/-- A call that sets no level writes the line of its event, if it is due and can be shown, and
changes nothing else. -/
theorem after_eq_writeLines (configured : journal.IsConfigured level) {call : Call}
    (same : call.level? = none) :
    journal.after call = journal.writeLines (writtenLines level [call]) := by
  cases call with
  | configure text toFile =>
    rw [after_configure_of_unknown journal toFile same, writtenLines_of_handed?_eq_none level rfl,
      writeLines_nil]
  | submit submission =>
    cases taken : submission.entry with
    | error fault =>
      have silent : (Call.submit submission).handed? = none := by rw [Call.handed?, taken]; rfl
      rw [after_submit_of_error journal taken, writtenLines_of_handed?_eq_none level silent,
        writeLines_nil]
    | ok entry =>
      have handed : (Call.submit submission).handed? = some entry := by
        rw [Call.handed?, taken]
        rfl
      rw [after_submit_of_ok journal taken, leaving_dispatch configured,
        writtenLines_of_handed?_eq_some level handed]
      split
      · rfl
      · exact (writeLines_nil journal).symm

/-- The file gets the lines of all calls, in their order. -/
theorem afterAll_eq_writeLines (configured : journal.IsConfigured level) {calls : List Call}
    (same : ∀ call ∈ calls, call.level? = none) :
    journal.afterAll calls = journal.writeLines (writtenLines level calls) := by
  induction calls generalizing journal with
  | nil => exact (writeLines_nil journal).symm
  | cons call rest ih =>
    obtain ⟨first, others⟩ := List.forall_mem_cons.mp same
    have step := after_eq_writeLines configured first
    calc journal.afterAll (call :: rest)
        = (journal.after call).afterAll rest := rfl
      _ = (journal.writeLines (writtenLines level [call])).afterAll rest := by rw [step]
      _ = (journal.writeLines (writtenLines level [call])).writeLines (writtenLines level rest) :=
          ih (configured.writeLines _) others
      _ = journal.writeLines (writtenLines level (call :: rest)) := by
          rw [writeLines_writeLines, ← writtenLines_cons]

/-- Whatever the journal was, a configuration leaves it as the calls since then need it. -/
theorem afterAll_append_configure (journal : Journal) (before : List Call) {text : Text}
    (known : Level.ofWord? (Text.trim text) = some level) {since : List Call}
    (last : ∀ call ∈ since, call.level? = none) :
    journal.afterAll (before ++ .configure text true :: since) =
      ((journal.afterAll before).configured level true).writeLines (writtenLines level since) := by
  calc journal.afterAll (before ++ .configure text true :: since)
      = ((journal.afterAll before).after (.configure text true)).afterAll since := by
        simp only [afterAll, List.foldl_append, List.foldl_cons]
    _ = ((journal.afterAll before).configured level true).afterAll since := by
        rw [after_configure_of_known _ true known]
    _ = _ := afterAll_eq_writeLines (isConfigured_configured _ level) last

end Events

theorem lines_after_of_handed?_eq_none (journal : Journal) {call : Call}
    (silent : call.handed? = none) : (journal.after call).lines = journal.lines := by
  cases call with
  | configure text toFile =>
    cases known : Level.ofWord? (Text.trim text) with
    | none => rw [after_configure_of_unknown journal toFile known]
    | some level => rw [after_configure_of_known journal toFile known, configured]
  | submit submission =>
    cases taken : submission.entry with
    | error fault => rw [after_submit_of_error journal taken]
    | ok entry =>
      rw [Call.handed?, taken] at silent
      cases silent

theorem lines_afterAll_of_handed?_eq_none {calls : List Call}
    (silent : ∀ call ∈ calls, call.handed? = none) (journal : Journal) :
    (journal.afterAll calls).lines = journal.lines := by
  induction calls generalizing journal with
  | nil => rfl
  | cons call rest ih =>
    obtain ⟨first, others⟩ := List.forall_mem_cons.mp silent
    calc (journal.afterAll (call :: rest)).lines
        = ((journal.after call).afterAll rest).lines := rfl
      _ = (journal.after call).lines := ih others _
      _ = journal.lines := lines_after_of_handed?_eq_none journal first

theorem after_of_isRefused (journal : Journal) {call : Call} (refused : call.isRefused = true) :
    journal.after call = journal := by
  cases call with
  | configure text toFile =>
    exact after_configure_of_unknown journal toFile (Option.isNone_iff_eq_none.mp refused)
  | submit submission => cases refused

/-- Calls that are refused might as well not be made. -/
theorem afterAll_filter_isRefused (calls : List Call) (journal : Journal) :
    journal.afterAll (calls.filter fun call => !call.isRefused) = journal.afterAll calls := by
  induction calls generalizing journal with
  | nil => rfl
  | cons call rest ih =>
    cases refused : call.isRefused with
    | false =>
      rw [List.filter_cons_of_pos (by simp [refused])]
      exact ih (journal.after call)
    | true =>
      rw [List.filter_cons_of_neg (by simp [refused]), ih]
      exact congrArg (afterAll · rest) (after_of_isRefused journal refused).symm

/-- Once a configuration has set a level and no later one has, the file has what it had before and
the lines of the events since, in their order, under that level alone, and there is one handler for
each outlet; earlier configurations have written nothing. The call of an event that is high enough
fails if the console cannot show it. A level that does not exist is refused, the journal stays as
it is, and the program might as well not have asked for it. -/
theorem file_since_configured (journal : Journal) (before : List Call) {text : Text} {level : Level}
    (known : Level.ofWord? (Text.trim text) = some level) {since : List Call}
    (last : ∀ call ∈ since, call.level? = none) :
    let old := journal.afterAll before
    let final := journal.afterAll (before ++ .configure text true :: since)
    final.lines = old.lines ++ writtenLines level since ∧
      final.least = level.number ∧
      final.handlers = [⟨.console, level.number⟩, ⟨.file, level.number⟩] ∧
      ((∀ call ∈ before, call.handed? = none) → old.lines = journal.lines) ∧
      (∀ submission entry, submission.entry = .ok entry → entry.IsDue level →
        ¬entry.IsShowable →
          ∃ datum, (submit submission).run final = .error (.notText datum) final) ∧
      (∀ refused, Level.ofWord? (Text.trim refused) = none → ∀ toFile (journal : Journal),
        (configure refused toFile).run journal = .error (Level.unsupported refused) journal) ∧
      ∀ (calls : List Call) (journal : Journal),
        journal.afterAll (calls.filter fun call => !call.isRefused) = journal.afterAll calls := by
  intro old final
  have state : final = (old.configured level true).writeLines (writtenLines level since) :=
    afterAll_append_configure journal before known last
  have configured : final.IsConfigured level :=
    state ▸ (isConfigured_configured old level).writeLines _
  refine ⟨congrArg Journal.lines state, configured.least, configured.handlers, ?earlier, ?failing,
    ?refused, afterAll_filter_isRefused⟩
  case earlier => exact fun silent => lines_afterAll_of_handed?_eq_none silent journal
  case failing => exact fun _ _ => run_submit_of_not_isShowable configured
  case refused => exact fun refused unknown => run_configure_of_unknown unknown

/-- A level that is lowered, with a refused one before and after it: the file has the lines of the
events since, and none from before. -/
theorem file_since_configured_lowered :
    let before : List Call :=
      [.configure "error".toList true, .submit (.bare "lib".toList 30 "early".toList),
        .configure "chatty".toList true]
    let since : List Call :=
      [.submit (.bare [] 25 "first".toList), .configure "loud".toList false,
        .submit (.called "app".toList .error "second".toList
          (.ofList [("n".toList, .integer 1)]) (.ofList [("stack".toList, .text "s".toList)])),
        .submit (.bare "lib".toList 19 "low".toList)]
    (afterAll {} (before ++ .configure " Info\n".toList true :: since)).lines =
      [.ofList [("event".toList, .text "first".toList), ("level".toList, .text "level 25".toList),
          ("logger".toList, .text "root".toList)],
        .ofList [("n".toList, .integer 1), ("stack".toList, .text "s".toList),
          ("event".toList, .text "second".toList), ("level".toList, .text "error".toList),
          ("logger".toList, .text "app".toList)]] := by
  intro before since
  have known : Level.ofWord? (Text.trim " Info\n".toList) = some .info := by decide
  have last : ∀ call ∈ since, call.level? = none := by decide
  obtain ⟨written, -⟩ := file_since_configured {} before known last
  rw [written]
  decide

/-- Not every event of the level or above has its line: a number of frames under the name of the
stack is no text, and the console fails before the file is reached. -/
theorem due_event_not_written :
    ¬∀ (text : Text) (level : Level) (submissions : List Submission) (entries : List Entry),
      Level.ofWord? (Text.trim text) = some level →
        submissions.mapM Submission.entry = .ok entries →
          (afterAll {} (.configure text true :: submissions.map .submit)).lines =
            (entries.filter fun entry => entry.IsDue level).map Entry.line := by
  intro complete
  let fields : Table Datum := .ofList [("stack".toList, .integer 3)]
  have written := complete "debug".toList .debug [.called "a".toList .info "e".toList {} fields]
    [{ logger := "a".toList, number := 20, event := "e".toList, fields }] (by decide) rfl
  exact absurd written (by decide)

end Journal
end CommentDocs.Log
