import CommentDocs.Proofs.TypeExpr.Leading

/-!
# Brackets in a type

The only brackets that belong in a type are the two of an array, which stand side by side; every
other bracket is the mark of a tag. A line that has a reading with such a type is always read that
way, because no further tag can be split off behind its tags (`Opens.length_le`), and then none of
the tags that it reports reaches into the type. A line of tags alone has no such reading.
-/

namespace CommentDocs.TypeExpr

open Text

/-- Every opening bracket is closed at once, as in the mark of an array. -/
def ArraysOnly (type : Text) : Prop :=
  ∀ before after, type = before ++ '[' :: after → after.head? = some ']'

/-- A line that can be read as tags and a type whose brackets are those of arrays. -/
def ReadsPlainly (content : Text) : Prop :=
  ∃ tags blanks type rest, Opens content tags blanks type rest ∧ ArraysOnly type

variable {content text rest others blanks blanks' type type' ending : Text} {tags more : List Tag}

/-- Behind fewer tags stand the tags that were not split off. -/
theorem exists_rest_of_spell_eq (same : spell tags ++ rest = spell more ++ others)
    (fewer : tags.length ≤ more.length) :
    ∃ others', trimStart rest = spell (more.drop tags.length) ++ others' ∧
      trimStart others' = trimStart others := by
  induction tags generalizing more rest others with
  | nil =>
    rw [spell_nil, List.nil_append] at same
    cases more with
    | nil => exact ⟨trimStart others, by rw [same]; rfl, trimStart_trimStart others⟩
    | cons first more =>
      refine ⟨others, ?_, rfl⟩
      rw [same, List.length_nil, List.drop_zero]
      exact trimStart_of_visible (by simp; decide)
  | cons tag tags ih =>
    cases more with
    | nil => exact absurd fewer (Nat.not_succ_le_zero _)
    | cons first more =>
      have found := tagAt?_spell tag tags rest
      obtain ⟨_, rest', behind, kept⟩ := exists_rest_of_spell_cons found rfl
      obtain ⟨_, others', behind', kept'⟩ := exists_rest_of_spell_cons found same
      obtain ⟨others'', split, last⟩ :=
        ih (behind.symm.trans behind') (Nat.le_of_succ_le_succ fewer)
      exact ⟨others'', by rw [← kept, split]; rfl, last.trans kept'⟩

/-- No more tags can be split off than those behind which there is no tag. -/
theorem length_le_of_spell_eq (same : spell tags ++ rest = spell more ++ others)
    (untagged : tagAt? (trimStart rest) = none) : more.length ≤ tags.length := by
  by_contra longer
  obtain ⟨others', split, -⟩ := exists_rest_of_spell_eq same (Nat.le_of_not_le longer)
  obtain ⟨next, further, left⟩ : ∃ next further, more.drop tags.length = next :: further :=
    List.exists_cons_of_ne_nil (by simpa using longer)
  rw [split, left, tagAt?_spell] at untagged
  cases untagged

theorem Opens.trimStart_rest (opens : Opens content tags blanks type rest) :
    trimStart (blanks ++ (type ++ rest)) = type ++ rest :=
  trimStart_append_of_visible opens.blank (opens.isType.head_visible rest)

/-- What stands behind the tags of one reading is at the end of what stands behind the fewer tags of
another one. -/
theorem Opens.exists_front (opens : Opens content tags blanks type rest)
    (others : Opens content more blanks' type' ending) (fewer : tags.length ≤ more.length) :
    ∃ between, type ++ rest = spell (more.drop tags.length) ++ (between ++ (type' ++ ending)) ∧
      ∀ c ∈ between, isBlank c = true := by
  obtain ⟨behind, split, same⟩ :=
    exists_rest_of_spell_eq (opens.spelled.symm.trans others.spelled) fewer
  obtain ⟨between, cut, blank⟩ := exists_blanks behind
  refine ⟨between, ?_, blank⟩
  rw [← opens.trimStart_rest, split, ← others.trimStart_rest, ← same, ← cut]

/-- Readings with the same number of tags have the same type. -/
theorem Opens.type_eq (opens : Opens content tags blanks type rest)
    (others : Opens content more blanks' type' ending) (same : tags.length = more.length) :
    type = type' := by
  obtain ⟨between, split, blank⟩ := opens.exists_front others (Nat.le_of_eq same)
  have behind : type ++ rest = type' ++ ending := by
    rw [same, List.drop_length, spell_nil, List.nil_append] at split
    calc type ++ rest
      _ = trimStart (type ++ rest) :=
        (trimStart_of_visible (opens.isType.head_visible rest)).symm
      _ = type' ++ ending := by
        rw [split, trimStart_append_of_visible blank (others.isType.head_visible ending)]
  have taken := typeAt?_append opens.isType opens.stopped
  rw [behind, typeAt?_append others.isType others.stopped] at taken
  exact (Prod.mk.inj (Option.some.inj taken)).1.symm

theorem ArraysOnly.tagAt?_eq_none (plain : ArraysOnly type) (nonempty : type ≠ []) (rest : Text) :
    tagAt? (type ++ rest) = none := by
  refine Option.eq_none_iff_forall_ne_some.mpr fun ⟨name, after⟩ tag => ?_
  obtain ⟨spelled, named, unclosed⟩ := tagAt?_eq_some_iff.mp tag
  obtain ⟨c, tail, rfl⟩ := List.exists_cons_of_ne_nil nonempty
  obtain ⟨rfl, inner⟩ := List.cons.inj spelled
  obtain ⟨tail, rfl⟩ : ∃ others, tail = ']' :: others := by
    have closed := plain [] tail rfl
    cases tail with
    | nil => cases closed
    | cons d tail => exact ⟨tail, by rw [List.head?_cons, Option.some.injEq] at closed; rw [closed]⟩
  obtain ⟨d, name, rfl⟩ := List.exists_cons_of_ne_nil named
  obtain ⟨rfl, -⟩ := List.cons.inj inner
  exact unclosed List.mem_cons_self

/-- A reading with a plain type splits off as many tags as there are. -/
theorem Opens.length_le (opens : Opens content tags blanks type rest) (plain : ArraysOnly type)
    (spelled : content = spell more ++ others) : more.length ≤ tags.length := by
  obtain ⟨c, tail, cons, -⟩ := opens.isType.exists_cons
  refine length_le_of_spell_eq (opens.spelled.symm.trans spelled) ?_
  rw [opens.trimStart_rest]
  exact plain.tagAt?_eq_none (cons ▸ List.cons_ne_nil c tail) rest

/-- An ending of a type and blanks that starts with a blank has nothing of the type. -/
theorem IsType.blank_of_append_eq (isType : IsType type) (ended : ∀ c ∈ ending, isBlank c = true)
    {front : Text} (split : type ++ ending = front ++ rest)
    (stopped : ∀ c ∈ rest.head?, isBlank c = true) : ∀ c ∈ rest, isBlank c = true := by
  rcases List.append_eq_append_iff.mp split with ⟨middle, -, rfl⟩ | ⟨middle, rfl, rfl⟩
  · exact fun c mem => ended c (List.mem_append_right _ mem)
  · cases middle with
    | nil => exact ended
    | cons c middle =>
      have visible := isType.isBlank_eq_false (List.mem_append_right front List.mem_cons_self)
      rw [stopped c rfl] at visible
      cases visible

/-- A line with a plain reading has no other type, also when it is read as a whole. -/
theorem Opens.eq_of_wholeType? (opens : Opens content tags blanks type rest)
    (plain : ArraysOnly type) (found : wholeType? content = some type') : type' = type := by
  obtain ⟨more, blanks', ending, annotates, most⟩ := wholeType?_eq_some_iff.mp found
  have fewer := opens.length_le plain annotates.spelled
  obtain ⟨between, split, -⟩ := annotates.opens.exists_front opens fewer
  have whole : Annotates content tags blanks type rest := by
    refine ⟨opens.spelled, opens.blank, opens.isType, ?_⟩
    rw [← List.append_assoc, ← List.append_assoc] at split
    exact annotates.isType.blank_of_append_eq annotates.ended split opens.stopped
  exact annotates.opens.type_eq opens (Nat.le_antisymm fewer (most _ _ _ _ whole))

theorem Opens.eq_of_leadingType? {prose : Text} (opens : Opens content tags blanks type rest)
    (plain : ArraysOnly type) (found : leadingType? content = some (type', prose)) :
    type' = type := by
  rw [leadingType?] at found
  split at found
  · rename_i whole
    obtain ⟨rfl, -⟩ := Prod.mk.inj (Option.some.inj found)
    exact opens.eq_of_wholeType? plain whole
  · split at found
    · rename_i opening
      split at found
      · obtain ⟨rfl, rfl⟩ := Prod.mk.inj (Option.some.inj found)
        obtain ⟨behind, spelled, first⟩ := opens_iff.mp ⟨blanks, opens⟩
        have searched := (findSome?_afterTags_eq_some_iff openingType?_trimStart).mpr
          ⟨tags, behind, spelled, first, fun more others spelled' longer =>
            absurd longer (Nat.not_lt.mpr (opens.length_le plain spelled'))⟩
        rw [opening, Option.some.injEq, Prod.mk.injEq] at searched
        exact searched.1
      · cases found
    · cases found

/-- No tag that a line reports starts in a plain type. -/
theorem inlineTags_of_arraysOnly (plain : ArraysOnly type) (rest : Text) :
    inlineTags (type ++ rest) = inlineTags rest := by
  induction type with
  | nil => rfl
  | cons c type ih =>
    have tail : ArraysOnly type := fun before after split =>
      plain (c :: before) after (congrArg (c :: ·) split)
    have untagged := plain.tagAt?_eq_none (List.cons_ne_nil c type) rest
    rw [List.cons_append] at untagged ⊢
    rw [inlineTags_of_tagAt?_eq_none untagged, ih tail]

/-- The tags of a line with a plain reading are those before its type and those behind it. -/
theorem Opens.inlineTags_eq (opens : Opens content tags blanks type rest)
    (plain : ArraysOnly type) :
    inlineTags content = tags.map Tag.name ++ inlineTags rest := by
  rw [opens.spelled, inlineTags_spell, inlineTags_append_of_blank opens.blank,
    inlineTags_of_arraysOnly plain]

theorem Opens.length_lt_of_spell (opens : Opens (spell tags) more blanks type rest) :
    more.length < tags.length := by
  have spelled : spell tags ++ [] = spell more ++ (blanks ++ (type ++ rest)) := by
    rw [List.append_nil, ← opens.spelled]
  refine Nat.lt_of_le_of_ne (length_le_of_spell_eq spelled rfl) fun same => ?_
  obtain ⟨behind, split, kept⟩ := exists_rest_of_spell_eq spelled (Nat.le_of_eq same.symm)
  obtain ⟨-, rfl⟩ := List.append_eq_nil_iff.mp split.symm
  obtain ⟨c, tail, rfl, -⟩ := opens.isType.exists_cons
  rw [opens.trimStart_rest] at kept
  cases kept

/-- A line of tags alone has no plain reading. -/
theorem not_readsPlainly_spell (tags : List Tag) : ¬ ReadsPlainly (spell tags) := by
  rintro ⟨more, blanks, type, rest, opens, plain⟩
  have most := opens.length_le plain (List.append_nil (spell tags)).symm
  exact absurd opens.length_lt_of_spell (Nat.not_lt.mpr most)

theorem IsType.chars_of_unmarked (isType : IsType type) (unmarked : type.getLast? ≠ some '?') :
    ∀ c ∈ type, isTypeChar c = true := by
  cases isType with
  | plain _ chars => exact chars
  | optional _ _ => simp at unmarked

/-- A line of tags alone that has a type has the last tag for the end of it. -/
theorem Annotates.isType_of_spell {last : Tag}
    (annotates : Annotates (spell (tags ++ [last])) more blanks type ending) :
    ∃ front, IsType (front ++ '[' :: last.name ++ [']']) := by
  have fewer : more.length ≤ tags.length := by
    have less := annotates.opens.length_lt_of_spell
    rw [List.length_append, List.length_singleton] at less
    exact Nat.le_of_lt_succ less
  have spelled : spell more ++ (blanks ++ (type ++ ending)) = spell (tags ++ [last]) ++ [] := by
    rw [List.append_nil, ← annotates.spelled]
  obtain ⟨behind, split, kept⟩ :=
    exists_rest_of_spell_eq spelled (by rw [List.length_append]; omega)
  have empty : ∀ c ∈ behind, isBlank c = true := List.dropWhile_eq_nil_iff.mp kept
  rw [annotates.opens.trimStart_rest, List.drop_append_of_le_length fewer] at split
  refine ⟨spell (tags.drop more.length), ?_⟩
  have same : type = spell (tags.drop more.length) ++ '[' :: last.name ++ [']'] := by
    calc type
      _ = trimEnd (type ++ ending) :=
        (trimEnd_append (fun c mem => annotates.isType.isBlank_eq_false
          (List.mem_of_getLast? mem)) annotates.ended).symm
      _ = trimEnd ((spell (tags.drop more.length) ++ '[' :: last.name ++ [']']) ++
            (last.blanks ++ behind)) := by
        rw [split]
        simp [spell, Tag.text]
      _ = spell (tags.drop more.length) ++ '[' :: last.name ++ [']'] :=
        trimEnd_append (by rw [List.getLast?_concat]; rintro _ ⟨⟩; decide)
          (List.forall_mem_append.mpr ⟨last.blank, empty⟩)
  exact same ▸ annotates.isType

/-- A line of tags alone has a type if and only if its last tag is made of type characters, and then
that tag, in its brackets, is the type. -/
theorem wholeType?_spell_concat (tags : List Tag) (last : Tag) :
    wholeType? (spell (tags ++ [last])) =
      if last.name.all isTypeChar then some ('[' :: (last.name ++ [']'])) else none := by
  split
  · rename_i chars
    rw [List.all_eq_true] at chars
    refine wholeType?_eq_some_iff.mpr ⟨tags, [], last.blanks, ?_, ?_⟩
    · refine ⟨by simp [spell, Tag.text], by simp, .plain (by simp) ?_, last.blank⟩
      rw [List.forall_mem_cons, List.forall_mem_append, List.forall_mem_singleton]
      exact ⟨by decide +kernel, chars, by decide +kernel⟩
    · intro more blanks' type' ending' annotates
      have less := annotates.opens.length_lt_of_spell
      rw [List.length_append, List.length_singleton] at less
      exact Nat.le_of_lt_succ less
  · rename_i other
    refine Option.eq_none_iff_forall_ne_some.mpr fun type found => other ?_
    obtain ⟨more, blanks, ending, annotates, -⟩ := wholeType?_eq_some_iff.mp found
    obtain ⟨front, isType⟩ := annotates.isType_of_spell
    have chars := isType.chars_of_unmarked (by rw [List.getLast?_concat]; decide)
    refine List.all_eq_true.mpr fun c mem => chars c ?_
    simp [mem]

end CommentDocs.TypeExpr
