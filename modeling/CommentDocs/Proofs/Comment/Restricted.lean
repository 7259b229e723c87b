import CommentDocs.Proofs.Comment.Sectionwise

/-!
# A reading that is restricted to one key

For a key that names a parameter or a property, the restricted reading and the full one pick
the same passages, so they agree on that key; no other passage has a target in the restricted
reading.
-/

namespace CommentDocs.Comment

open Text

theorem ValueKey.ofWord?_name (key : ValueKey) : ofWord? key.name = some key := by
  cases key <;> decide

/-- A word that is not a key of the value itself is known by no other spelling. -/
theorem ofWord?_of_sectionName_eq {word key : Text} (h : sectionName word = key)
    (other : ValueKey.ofWord? key = none) : ValueKey.ofWord? word = none := by
  unfold sectionName at h
  split at h
  · rename_i value _
    rw [← h, ValueKey.ofWord?_name] at other
    cases other
  · assumption

section

variable {key : Text} (other : ValueKey.ofWord? key = none)
include other

/-- The restricted reading adds a passage to the entry of its key exactly when the full reading
does, and to nothing else. -/
theorem target?_only_eq_some_iff {passage : Passage} {target : Section} :
    passage.target? (some key) = some target ↔
      target = .entry key ∧ passage.target? none = some (.entry key) := by
  unfold Passage.target?
  by_cases reminder : isReminder (sectionName passage.key.key)
  · simp [reminder]
  · by_cases wanted : sectionName passage.key.key = key
    · have plain := ofWord?_of_sectionName_eq wanted other
      subst wanted
      simp [reminder, plain, eq_comm]
    · cases value : ValueKey.ofWord? passage.key.key <;> simp [reminder, wanted]

theorem feeding_only_value (value : ValueKey) (ps : List Passage) :
    feeding (some key) (.value value) ps = [] := by
  simp [feeding, target?_only_eq_some_iff other]

theorem feeding_only_entry (ps : List Passage) :
    feeding (some key) (.entry key) ps = feeding none (.entry key) ps := by
  simp [feeding, target?_only_eq_some_iff other]

theorem eq_of_mem_entryNames_only {ps : List Passage} {name : Text}
    (mem : name ∈ entryNames (some key) ps) : name = key := by
  simp only [entryNames, List.mem_eraseDups, List.mem_filterMap, entryName?_eq_some_iff,
    target?_only_eq_some_iff other, Section.entry.injEq] at mem
  obtain ⟨_, _, same, _⟩ := mem
  exact same

theorem entryNames_only (ps : List Passage) :
    entryNames (some key) ps = if key ∈ entryNames none ps then [key] else [] := by
  have wanted : key ∈ entryNames none ps ↔ key ∈ entryNames (some key) ps := by
    rw [mem_entryNames, mem_entryNames, feeding_only_entry other]
  have distinct : (entryNames (some key) ps).Nodup := Table.nodup_eraseDups _
  have same : ∀ name ∈ entryNames (some key) ps, name = key := fun name mem =>
    eq_of_mem_entryNames_only other mem
  simp only [wanted]
  cases names : entryNames (some key) ps with
  | nil => simp
  | cons first rest =>
    rw [names] at distinct same
    have head : first = key := same first List.mem_cons_self
    have tail : rest = [] := List.eq_nil_iff_forall_not_mem.mpr fun name mem =>
      (List.nodup_cons.mp distinct).1
        (head.trans (same name (List.mem_cons_of_mem _ mem)).symm ▸ mem)
    simp [head, tail]

/-- What the passages say to a restricted reading is the entry of its key alone. -/
theorem CommentDoc.ofPassages_only (ps : List Passage) :
    CommentDoc.ofPassages (some key) ps =
      { entries := ⟨((CommentDoc.ofPassages none ps).entries.get? key).toList.map
          fun entry => (key, entry)⟩ } := by
  have entries : (CommentDoc.ofPassages (some key) ps).entries =
      ⟨((CommentDoc.ofPassages none ps).entries.get? key).toList.map
        fun entry => (key, entry)⟩ := by
    simp only [CommentDoc.ofPassages, Table.get?_tabulate, entryNames_only other]
    split <;> simp [Table.tabulate, feeding_only_entry other]
  rw [← entries]
  simp only [CommentDoc.ofPassages, feeding_only_value other]
  rfl

/-- Both readings of a text find the same entry for the key. -/
theorem get?_entries_read_only (text : Text) (nonempty : key ≠ []) :
    (read text (some key)).entries.get? key = (read text none).entries.get? key := by
  cases block : Block.ofText? text with
  | none => simp only [read, block]
  | some found =>
    have kept : (some key).filter (fun name : Text => decide (name ≠ [])) = some key := by
      simp [Option.filter, nonempty]
    rw [read_eq_ofPassages block, read_eq_ofPassages block, kept, Option.filter_none,
      CommentDoc.ofPassages_only other]
    cases (CommentDoc.ofPassages none (passages found.scan)).entries.get? key with
    | none => rfl
    | some entry => simp [Table.get?, Table.find?]

end

/-- A reading restricted to a key that is none of the value's own agrees with the full reading
on that key and is empty elsewhere: its one entry is the full reading's entry of the key, if
there is one, and every other field has its default. -/
theorem read_only {key : Text} (text : Text) (nonempty : key ≠ [])
    (other : ValueKey.ofWord? key = none) :
    read text (some key) =
      { entries :=
          ⟨((read text none).entries.get? key).toList.map fun entry => (key, entry)⟩ } := by
  cases block : Block.ofText? text with
  | none => simp only [read, block]; rfl
  | some found =>
    have kept : (some key).filter (fun name : Text => decide (name ≠ [])) = some key := by
      simp [Option.filter, nonempty]
    rw [read_eq_ofPassages block, read_eq_ofPassages block, kept]
    exact CommentDoc.ofPassages_only other (passages found.scan)

/-- Other keys and a reminder stand around the wanted key. -/
theorem read_only_between_others :
    "b".toList ≠ [] ∧ ValueKey.ofWord? "b".toList = none ∧
      read " summary: S\n b: [t] N?\n TODO: x\n     y\n a: M\n b:\n     z".toList
          (some "b".toList) =
        { entries := ⟨[("b".toList,
            { type := "N?".toList, summary := "z".toList, tags := ["t".toList],
              isOptional := true })]⟩ } :=
  ⟨by decide, by decide, (read_only _ (by decide) (by decide)).trans (by decide +kernel)⟩

end CommentDocs.Comment
