import CommentDocs.Proofs.TypeExpr.Readings

/-!
# A leading type and the prose behind it

A line that opens with a type is cut into the tags before the type, the type, and the prose behind
it. Nothing of the line is lost but blanks at the end of a line without prose, and the tags before
the type are the first ones that the line reports.
-/

namespace CommentDocs.TypeExpr

open Text

variable {content text rest prose type : Text}

theorem inlineTags_of_tagAt?_eq_none {c : Char} (untagged : tagAt? (c :: rest) = none) :
    inlineTags (c :: rest) = inlineTags rest := by
  rw [inlineTags]
  split
  · rename_i found
    rw [untagged] at found
    cases found
  · rfl

theorem inlineTags_append_of_blank {blanks : Text} (blank : ∀ c ∈ blanks, isBlank c = true) :
    inlineTags (blanks ++ rest) = inlineTags rest := by
  induction blanks with
  | nil => rfl
  | cons c blanks ih =>
    rw [List.forall_mem_cons] at blank
    have untagged : tagAt? (c :: (blanks ++ rest)) = none := by
      refine Option.eq_none_iff_forall_ne_some.mpr fun found tag => ?_
      obtain ⟨bracket, -⟩ := List.cons.inj (tagAt?_eq_some_iff.mp tag).1
      exact absurd (bracket ▸ blank.1) (by decide)
    rw [List.cons_append, inlineTags_of_tagAt?_eq_none untagged, ih blank.2]

/-- The tags at the start of a line are reported before all others. -/
theorem inlineTags_spell (tags : List Tag) (rest : Text) :
    inlineTags (spell tags ++ rest) = tags.map Tag.name ++ inlineTags rest := by
  induction tags with
  | nil => rfl
  | cons tag tags ih =>
    have found := tagAt?_spell tag tags rest
    rw [spell_cons, List.cons_append] at found ⊢
    rw [inlineTags]
    split
    · rename_i name after same
      rw [found, Option.some.injEq, Prod.mk.injEq] at same
      obtain ⟨rfl, rfl⟩ := same
      rw [inlineTags_append_of_blank tag.blank, ih, List.map_cons, List.cons_append]
    · rename_i untagged
      rw [found] at untagged
      cases untagged

/-- What the search for a leading type finds is a reading of the line; where the type is all there
is, blanks may stand behind it. -/
theorem opens_of_leadingType? (found : leadingType? content = some (type, prose)) :
    ∃ tags blanks ending, Opens content tags blanks type (prose ++ ending) ∧
      (∀ c ∈ ending, isBlank c = true) ∧ (prose ≠ [] → ending = []) := by
  rw [leadingType?] at found
  split at found
  · rename_i whole
    obtain ⟨rfl, rfl⟩ := Prod.mk.inj (Option.some.inj found)
    obtain ⟨tags, blanks, ending, annotates, -⟩ := wholeType?_eq_some_iff.mp whole
    exact ⟨tags, blanks, ending, annotates.opens, annotates.ended, fun some => absurd rfl some⟩
  · split at found
    · rename_i opening
      split at found
      · obtain ⟨rfl, rfl⟩ := Prod.mk.inj (Option.some.inj found)
        obtain ⟨tags, behind, spelled, found, -⟩ :=
          (findSome?_afterTags_eq_some_iff openingType?_trimStart).mp opening
        obtain ⟨blanks, opens⟩ := opens_iff.mpr ⟨behind, spelled, found⟩
        exact ⟨tags, blanks, [], by rwa [List.append_nil], by simp, fun _ => rfl⟩
      · cases found
    · cases found

/-- The line consists of the tags before the type, the type, the prose, and blanks only if there is
no prose. The type is a run of type characters with at most one question mark at its end; the tags
before it are the first ones that the line reports; and the prose starts with a blank. -/
theorem leading_lossless (found : leadingType? content = some (type, prose)) :
    IsType type ∧
      (∃ tags blanks ending,
        content = (spell tags ++ blanks) ++ type ++ prose ++ ending ∧
          (∀ c ∈ blanks, isBlank c = true) ∧ (∀ c ∈ ending, isBlank c = true) ∧
          (prose ≠ [] → ending = []) ∧ tags.map Tag.name <+: inlineTags content) ∧
      ∀ c ∈ prose.head?, isBlank c = true := by
  obtain ⟨tags, blanks, ending, opens, ended, bare⟩ := opens_of_leadingType? found
  refine ⟨opens.isType, ⟨tags, blanks, ending, ?_, opens.blank, ended, bare, ?_⟩, ?_⟩
  · simp [opens.spelled]
  · rw [opens.spelled, inlineTags_spell]
    exact List.prefix_append _ _
  · intro c first
    refine opens.stopped c ?_
    rw [List.head?_append, first]
    rfl

/-- Two tags, one with a blank in it, before a type of an array, and a tag in the prose. -/
theorem leading_lossless_tagged :
    let content := "[t] [u v] ui.N[]? of [x]".toList
    leadingType? content = some ("ui.N[]?".toList, " of [x]".toList) ∧
      IsType "ui.N[]?".toList ∧
      ∃ tags blanks ending,
        content = (spell tags ++ blanks) ++ "ui.N[]?".toList ++ " of [x]".toList ++ ending ∧
          ending = [] ∧ tags.map Tag.name <+: ["t".toList, "u v".toList, "x".toList] := by
  intro content
  have found : leadingType? content = some ("ui.N[]?".toList, " of [x]".toList) := by
    decide +kernel
  have reported : inlineTags content = ["t".toList, "u v".toList, "x".toList] := by decide +kernel
  obtain ⟨isType, ⟨tags, blanks, ending, spelled, -, -, bare, first⟩, -⟩ :=
    leading_lossless found
  exact ⟨found, isType, tags, blanks, ending, spelled, bare (by decide), reported ▸ first⟩

end CommentDocs.TypeExpr
