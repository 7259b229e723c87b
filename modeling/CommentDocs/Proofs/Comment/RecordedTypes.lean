import CommentDocs.Proofs.Comment.Sectionwise
import CommentDocs.Proofs.TypeExpr.Brackets

/-!
# The types that a comment records

The type of a section is read from one key line, the last one of the section that gives a type.
Inline tags are no part of it exactly where this line has a plain reading, as tags and a type whose
brackets are those of arrays. Elsewhere a bracket of a tag is taken for a character of the type: a
line of tags alone has no plain reading, and yet its last tag becomes the type of an entry when it
is made of type characters.
-/

namespace CommentDocs.Comment

open Text TypeExpr

/-- The passages of a comment; a text that is no documentation has none. -/
def passagesOf (text : Text) : List Passage :=
  match Block.ofText? text with
  | some block => passages block.scan
  | none => []

/-- The type that a documentation gives to an entry or to the return value. -/
def CommentDoc.typeOf (doc : CommentDoc) : Section → Text
  | .entry name => (doc.entry name).type
  | .value .returns => doc.returns.type
  | .value _ => []

/-- The type that the key line of a passage gives to its section: for an entry the type is the whole
line, for the return value it is the start of the line. -/
def Passage.given? (passage : Passage) : Section → Option Text
  | .entry _ => passage.type?
  | .value .returns => passage.leading?.map (·.1)
  | .value _ => none

/-- The passage that a section takes its type from, the last one that gives one. -/
def typing? (onlyKey : Option Text) (text : Text) (target : Section) : Option Passage :=
  (feeding (onlyKey.filter (· ≠ [])) target (passagesOf text)).reverse.find? fun passage =>
    (passage.given? target).isSome

variable {text type : Text} {onlyKey : Option Text} {target : Section} {passage : Passage}

/-- What the last element of a list that gives something gives. -/
theorem getLast?_filterMap_eq {α β : Type} (f : α → Option β) (items : List α) :
    (items.filterMap f).getLast? = (items.reverse.find? fun item => (f item).isSome).bind f := by
  rw [List.getLast?_filterMap]
  induction items.reverse with
  | nil => rfl
  | cons item items ih =>
    cases given : f item with
    | none => simp [given, ih]
    | some value => simp [given]

/-- A section has the type that its passages give last. -/
theorem typeOf_ofPassages (ps : List Passage) (target : Section) :
    (CommentDoc.ofPassages onlyKey ps).typeOf target =
      (((feeding onlyKey target ps).reverse.find? fun passage =>
        (passage.given? target).isSome).bind (·.given? target)).getD [] := by
  rw [← getLast?_filterMap_eq]
  match target with
  | .entry name =>
    rw [CommentDoc.typeOf, entry_ofPassages]
    rfl
  | .value .returns =>
    have first : (feeding onlyKey (.value .returns) ps).filterMap (·.given? (.value .returns)) =
        ((feeding onlyKey (.value .returns) ps).filterMap Passage.leading?).map (·.1) := by
      rw [List.map_filterMap]
      rfl
    rw [first, List.getLast?_map]
    rfl
  | .value .summary | .value .description | .value .tags | .value .examples =>
    have nothing (passages : List Passage) :
        passages.filterMap (fun _ => none) = ([] : List Text) :=
      List.filterMap_eq_nil_iff.mpr fun _ _ => rfl
    simp only [CommentDoc.typeOf, Passage.given?, nothing, List.getLast?_nil, Option.getD_none]

theorem typeOf_read (text : Text) (onlyKey : Option Text) (target : Section) :
    (read text onlyKey).typeOf target =
      ((typing? onlyKey text target).bind (·.given? target)).getD [] := by
  cases found : Block.ofText? text with
  | none =>
    simp only [read, found, typing?, passagesOf]
    cases target with
    | entry name => rfl
    | value key => cases key <;> rfl
  | some block =>
    rw [read_eq_ofPassages found, typeOf_ofPassages, typing?, passagesOf, found]

namespace Passage

variable (given : passage.given? target = some type)
include given

/-- A given type opens the key line, behind the tags at its start. -/
theorem exists_opens : ∃ tags blanks rest, Opens passage.key.content tags blanks type rest := by
  match target with
  | .entry _ =>
    obtain ⟨tags, blanks, ending, annotates, -⟩ := wholeType?_eq_some_iff.mp given
    exact ⟨tags, blanks, ending, annotates.opens⟩
  | .value .returns =>
    obtain ⟨⟨type, prose⟩, leading, rfl⟩ := Option.map_eq_some_iff.mp given
    obtain ⟨tags, blanks, ending, opens, -⟩ := opens_of_leadingType? leading
    exact ⟨tags, blanks, prose ++ ending, opens⟩
  | .value .summary | .value .description | .value .tags | .value .examples => cases given

/-- A given type is plain if and only if the key line has a plain reading. -/
theorem arraysOnly_iff : ArraysOnly type ↔ ReadsPlainly passage.key.content := by
  constructor
  · intro plain
    obtain ⟨tags, blanks, rest, opens⟩ := exists_opens given
    exact ⟨tags, blanks, type, rest, opens, plain⟩
  · rintro ⟨tags, blanks, other, rest, opens, plain⟩
    suffices same : type = other from same ▸ plain
    match target with
    | .entry _ => exact opens.eq_of_wholeType? plain given
    | .value .returns =>
      obtain ⟨⟨type, prose⟩, leading, rfl⟩ := Option.map_eq_some_iff.mp given
      exact opens.eq_of_leadingType? plain leading
    | .value .summary | .value .description | .value .tags | .value .examples => cases given

end Passage

/-- A section has a type if and only if one of its key lines gives one, and then it is the type that
the last such line gives; it opens the line behind the tags at its start. The brackets of the type
are those of arrays if and only if the line has a reading with such a type, and then the tags that
the line reports are those before the type and those behind it. A line of tags alone has no such
reading; it gives an entry a type if and only if its last tag is made of type characters, and then
the type is that tag. -/
theorem recorded_arraysOnly_iff (text : Text) (onlyKey : Option Text) (target : Section) :
    (typing? onlyKey text target = none → (read text onlyKey).typeOf target = []) ∧
      (∀ passage, typing? onlyKey text target = some passage →
        ∃ type tags blanks rest, (read text onlyKey).typeOf target = type ∧
          passage.given? target = some type ∧
          Opens passage.key.content tags blanks type rest ∧
          (ArraysOnly type ↔ ReadsPlainly passage.key.content) ∧
          (ArraysOnly type →
            inlineTags passage.key.content = tags.map Tag.name ++ inlineTags rest)) ∧
      ∀ passage ∈ passagesOf text, ∀ tags last, passage.key.content = spell (tags ++ [last]) →
        ¬ ReadsPlainly passage.key.content ∧
          passage.type? =
            if last.name.all isTypeChar then some ('[' :: (last.name ++ [']'])) else none := by
  refine ⟨fun nothing => ?_, fun passage typing => ?_, fun passage _ tags last alone => ?_⟩
  · rw [typeOf_read, nothing]
    rfl
  · have gives := List.find?_some typing
    obtain ⟨type, given⟩ := Option.isSome_iff_exists.mp gives
    obtain ⟨tags, blanks, rest, opens⟩ := Passage.exists_opens given
    refine ⟨type, tags, blanks, rest, ?_, given, opens, Passage.arraysOnly_iff given,
      opens.inlineTags_eq⟩
    rw [typeOf_read, typing, Option.bind_some, given, Option.getD_some]
  · rw [Passage.type?, alone]
    exact ⟨not_readsPlainly_spell _, wholeType?_spell_concat tags last⟩

/-- An entry with a plain key line, one with a line of tags alone, and a return value without a
type. -/
def taggedComment : Text :=
  " a: [t] N[]?\n b: [u] [v]\n returns: it [w]".toList

theorem recorded_arraysOnly_iff_tagged :
    let typed : Passage := ⟨" a: [t] N[]?".toList, ⟨"a".toList, "[t] N[]?".toList⟩, []⟩
    let alone : Passage := ⟨" b: [u] [v]".toList, ⟨"b".toList, "[u] [v]".toList⟩, []⟩
    (typing? none taggedComment (.entry "a".toList) = some typed ∧
        ∃ tags blanks rest, Opens typed.key.content tags blanks "N[]?".toList rest ∧
          (ArraysOnly "N[]?".toList ↔ ReadsPlainly typed.key.content)) ∧
      (alone ∈ passagesOf taggedComment ∧ ¬ ReadsPlainly alone.key.content ∧
        alone.type? = some "[v]".toList) ∧
      typing? none taggedComment (.value .returns) = none ∧
        (read taggedComment none).typeOf (.value .returns) = [] := by
  intro typed alone
  obtain ⟨-, types, tagged⟩ := recorded_arraysOnly_iff taggedComment none (.entry "a".toList)
  obtain ⟨untyped, -, -⟩ := recorded_arraysOnly_iff taggedComment none (.value .returns)
  have typing : typing? none taggedComment (.entry "a".toList) = some typed := by decide +kernel
  have absent : typing? none taggedComment (.value .returns) = none := by decide +kernel
  have mem : alone ∈ passagesOf taggedComment := by decide +kernel
  obtain ⟨type, tags, blanks, rest, -, given, opens, plain, -⟩ := types typed typing
  have read : typed.type? = some "N[]?".toList := by decide +kernel
  obtain rfl : "N[]?".toList = type := Option.some.inj (read.symm.trans given)
  let u : Tag := ⟨"u".toList, [' '], by decide, by decide, List.all_eq_true.mp (by decide)⟩
  let v : Tag := ⟨"v".toList, [], by decide, by decide, List.forall_mem_nil _⟩
  obtain ⟨unread, last⟩ := tagged alone mem [u] v rfl
  exact ⟨⟨typing, tags, blanks, rest, opens, plain⟩, ⟨mem, unread, last.trans (by decide +kernel)⟩,
    absent, untyped absent⟩

/-- A tag that stands alone on the key line of an entry becomes the type of the entry. -/
theorem recorded_tag_as_type :
    ¬ ∀ (text : Text) (onlyKey : Option Text) (target : Section),
      ArraysOnly ((read text onlyKey).typeOf target) := by
  intro plain
  have recorded : (read " a: [const]".toList none).typeOf (.entry "a".toList) =
      '[' :: "const]".toList := by decide +kernel
  exact absurd (plain " a: [const]".toList none (.entry "a".toList) [] _ recorded) (by decide)

end CommentDocs.Comment
