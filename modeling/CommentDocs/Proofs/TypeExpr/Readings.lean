import CommentDocs.TypeExpr
import Mathlib.Data.List.TakeWhile

/-!
# The readings of an annotated line

Brackets are the marks of a tag and also belong to types, so a line of tags and a type can be read
in more than one way. A reading is fixed by the number of tags that it splits off: the tags
themselves leave no choice, and what follows them has at most one type. The search tries the numbers
from the largest one down, so it finds the reading with the most tags, and it finds one whenever
there is one.
-/

namespace CommentDocs.TypeExpr

open Text

/-- A tag in brackets and the blanks behind it. -/
structure Tag where
  name : Text
  blanks : Text
  nonempty : name ≠ []
  unclosed : ']' ∉ name
  blank : ∀ c ∈ blanks, isBlank c = true

def Tag.text (tag : Tag) : Text :=
  '[' :: (tag.name ++ ']' :: tag.blanks)

/-- Tags as they are written one after the other. -/
def spell (tags : List Tag) : Text :=
  tags.flatMap Tag.text

/-- A run of type characters with at most one question mark at its end. -/
inductive IsType : Text → Prop where
  | plain {run : Text} (nonempty : run ≠ []) (chars : ∀ c ∈ run, isTypeChar c = true) : IsType run
  | optional {run : Text} (nonempty : run ≠ []) (chars : ∀ c ∈ run, isTypeChar c = true) :
      IsType (run ++ ['?'])

/-- A line that is nothing but tags, blanks, a type and blanks. -/
structure Annotates (content : Text) (tags : List Tag) (blanks type ending : Text) : Prop where
  spelled : content = spell tags ++ (blanks ++ (type ++ ending))
  blank : ∀ c ∈ blanks, isBlank c = true
  isType : IsType type
  ended : ∀ c ∈ ending, isBlank c = true

/-- A line that opens with tags, blanks and a type, up to a blank or to the end of the line. -/
structure Opens (content : Text) (tags : List Tag) (blanks type rest : Text) : Prop where
  spelled : content = spell tags ++ (blanks ++ (type ++ rest))
  blank : ∀ c ∈ blanks, isBlank c = true
  isType : IsType type
  stopped : ∀ c ∈ rest.head?, isBlank c = true

@[simp] theorem spell_nil : spell [] = [] := rfl

@[simp] theorem spell_cons (tag : Tag) (tags : List Tag) :
    spell (tag :: tags) = '[' :: (tag.name ++ ']' :: (tag.blanks ++ spell tags)) := by
  simp [spell, Tag.text]

theorem Annotates.opens {content blanks type ending : Text} {tags : List Tag}
    (annotates : Annotates content tags blanks type ending) :
    Opens content tags blanks type ending :=
  ⟨annotates.spelled, annotates.blank, annotates.isType,
    fun c first => annotates.ended c (List.mem_of_mem_head? first)⟩

def blankCodes : List Nat :=
  [9, 10, 11, 12, 13, 0x1C, 0x1D, 0x1E, 0x1F, 0x20, 0x85, 0xA0, 0x1680, 0x2000, 0x2001, 0x2002,
    0x2003, 0x2004, 0x2005, 0x2006, 0x2007, 0x2008, 0x2009, 0x200A, 0x2028, 0x2029, 0x202F, 0x205F,
    0x3000]

theorem isTypeChar_of_isBlank {c : Char} (blank : isBlank c = true) : isTypeChar c = false := by
  have code : c.toNat ∈ blankCodes := by
    simp only [isBlank, isMargin, Bool.or_eq_true, Bool.and_eq_true, decide_eq_true_eq] at blank
    simp only [blankCodes, List.mem_cons, List.not_mem_nil, or_false]
    omega
  have all : ∀ code ∈ blankCodes, isTypeChar (Char.ofNat code) = false := by decide +kernel
  have this := all _ code
  rwa [Char.ofNat_toNat] at this

theorem isBlank_of_isTypeChar {c : Char} (char : isTypeChar c = true) : isBlank c = false := by
  by_contra blank
  rw [Bool.not_eq_false] at blank
  rw [isTypeChar_of_isBlank blank] at char
  cases char

variable {content text rest blanks type : Text}

theorem IsType.exists_cons (isType : IsType type) :
    ∃ c tail, type = c :: tail ∧ isTypeChar c = true := by
  cases isType with
  | plain nonempty chars =>
    obtain ⟨c, tail, rfl⟩ := List.exists_cons_of_ne_nil nonempty
    exact ⟨c, tail, rfl, chars c List.mem_cons_self⟩
  | @optional run nonempty chars =>
    obtain ⟨c, tail, rfl⟩ := List.exists_cons_of_ne_nil nonempty
    exact ⟨c, tail ++ ['?'], rfl, chars c List.mem_cons_self⟩

/-- A type starts with no blank, whatever follows it. -/
theorem IsType.head_visible (isType : IsType type) (rest : Text) :
    ∀ c ∈ (type ++ rest).head?, isBlank c = false := by
  obtain ⟨c, tail, rfl, char⟩ := isType.exists_cons
  rintro d found
  obtain rfl : c = d := by simpa using found
  exact isBlank_of_isTypeChar char

theorem IsType.isBlank_eq_false (isType : IsType type) {c : Char} (mem : c ∈ type) :
    isBlank c = false := by
  cases isType with
  | plain _ chars => exact isBlank_of_isTypeChar (chars c mem)
  | optional _ chars =>
    rcases List.mem_append.mp mem with inner | last
    · exact isBlank_of_isTypeChar (chars c inner)
    · rw [List.mem_singleton.mp last]
      decide

/-- What `typeAt?` takes is a type, and the text goes on behind it. -/
theorem isType_of_typeAt? (found : typeAt? text = some (type, rest)) :
    IsType type ∧ text = type ++ rest := by
  have cut : text.takeWhile isTypeChar ++ text.dropWhile isTypeChar = text :=
    List.takeWhile_append_dropWhile
  have chars : ∀ c ∈ text.takeWhile isTypeChar, isTypeChar c = true := fun _ =>
    List.mem_takeWhile_imp
  unfold typeAt? at found
  split at found
  · cases found
  · rename_i nonempty
    split at found
    · rename_i tail marked
      obtain ⟨rfl, rfl⟩ := Prod.mk.inj (Option.some.inj found)
      refine ⟨.optional nonempty chars, ?_⟩
      rw [marked] at cut
      simp [cut]
    · obtain ⟨rfl, rfl⟩ := Prod.mk.inj (Option.some.inj found)
      exact ⟨.plain nonempty chars, cut.symm⟩

/-- A type that ends before a blank or at the end of the text is taken whole. -/
theorem typeAt?_append (isType : IsType type) (stopped : ∀ c ∈ rest.head?, isBlank c = true) :
    typeAt? (type ++ rest) = some (type, rest) := by
  have outside : ∀ c ∈ rest.head?, isTypeChar c = false ∧ c ≠ '?' := fun c first => by
    have blank := stopped c first
    refine ⟨isTypeChar_of_isBlank blank, ?_⟩
    rintro rfl
    exact absurd blank (by decide)
  have mark : isTypeChar '?' = false := by decide +kernel
  cases isType with
  | plain nonempty chars =>
    rw [typeAt?, List.takeWhile_append_of_pos chars, List.dropWhile_append_of_pos chars]
    cases rest with
    | nil => simp [nonempty]
    | cons c rest =>
      obtain ⟨other, unmarked⟩ := outside c rfl
      simp [other, nonempty, unmarked]
  | optional nonempty chars =>
    rw [List.append_assoc, typeAt?, List.takeWhile_append_of_pos chars,
      List.dropWhile_append_of_pos chars]
    simp [mark, nonempty]

theorem onlyType?_eq_some_iff : onlyType? text = some type ↔
    ∃ blanks ending, text = blanks ++ (type ++ ending) ∧ (∀ c ∈ blanks, isBlank c = true) ∧
      IsType type ∧ ∀ c ∈ ending, isBlank c = true := by
  constructor
  · intro found
    obtain ⟨blanks, cut, blank⟩ := exists_blanks text
    unfold onlyType? at found
    split at found
    · rename_i taken ending whole
      split at found
      · rename_i ended
        obtain rfl := Option.some.inj found
        obtain ⟨isType, spelled⟩ := isType_of_typeAt? whole
        exact ⟨blanks, ending, by rw [← spelled, ← cut], blank, isType, List.all_eq_true.mp ended⟩
      · cases found
    · cases found
  · rintro ⟨blanks, ending, rfl, blank, isType, ended⟩
    have stopped : ∀ c ∈ ending.head?, isBlank c = true := fun c first =>
      ended c (List.mem_of_mem_head? first)
    rw [onlyType?, trimStart_append_of_visible blank (isType.head_visible ending),
      typeAt?_append isType stopped]
    simp [allBlank, List.all_eq_true.mpr ended]

theorem openingType?_eq_some_iff : openingType? text = some (type, rest) ↔
    ∃ blanks, text = blanks ++ (type ++ rest) ∧ (∀ c ∈ blanks, isBlank c = true) ∧
      IsType type ∧ ∀ c ∈ rest.head?, isBlank c = true := by
  constructor
  · intro found
    obtain ⟨blanks, cut, blank⟩ := exists_blanks text
    unfold openingType? at found
    split at found
    · rename_i taken whole
      obtain ⟨rfl, rfl⟩ := Prod.mk.inj (Option.some.inj found)
      obtain ⟨isType, spelled⟩ := isType_of_typeAt? whole
      exact ⟨blanks, by rw [← spelled, ← cut], blank, isType, by simp⟩
    · rename_i taken c tail whole
      split at found
      · rename_i stopped
        obtain ⟨rfl, rfl⟩ := Prod.mk.inj (Option.some.inj found)
        obtain ⟨isType, spelled⟩ := isType_of_typeAt? whole
        exact ⟨blanks, by rw [← spelled, ← cut], blank, isType, by simpa using stopped⟩
      · cases found
    · cases found
  · rintro ⟨blanks, rfl, blank, isType, stopped⟩
    rw [openingType?, trimStart_append_of_visible blank (isType.head_visible rest),
      typeAt?_append isType stopped]
    cases rest with
    | nil => rfl
    | cons c rest => simp [stopped c rfl]

theorem onlyType?_trimStart (text : Text) : onlyType? (trimStart text) = onlyType? text := by
  rw [onlyType?, trimStart_trimStart, onlyType?]

theorem openingType?_trimStart (text : Text) :
    openingType? (trimStart text) = openingType? text := by
  rw [openingType?, trimStart_trimStart, openingType?]

theorem tagAt?_eq_some_iff {name after : Text} : tagAt? text = some (name, after) ↔
    text = '[' :: (name ++ ']' :: after) ∧ name ≠ [] ∧ ']' ∉ name := by
  constructor
  · intro found
    unfold tagAt? at found
    split at found
    · rename_i inner
      have cut : inner.takeWhile (· ≠ ']') ++ inner.dropWhile (· ≠ ']') = inner :=
        List.takeWhile_append_dropWhile
      split at found
      · rename_i bracket tail dropped
        split at found
        · cases found
        · rename_i nonempty
          obtain ⟨rfl, rfl⟩ := Prod.mk.inj (Option.some.inj found)
          obtain rfl : bracket = ']' := by
            have stops := List.head?_dropWhile_not (fun c : Char => decide (c ≠ ']')) inner
            rw [dropped] at stops
            simpa using stops
          refine ⟨by rw [← dropped, cut], nonempty, fun mem => ?_⟩
          simpa using List.mem_takeWhile_imp mem
      · cases found
    · cases found
  · rintro ⟨rfl, nonempty, unclosed⟩
    have inner : ∀ c ∈ name, decide (c ≠ ']') = true := fun c mem =>
      decide_eq_true fun same => unclosed (same ▸ mem)
    simp only [tagAt?, List.takeWhile_append_of_pos inner, List.dropWhile_append_of_pos inner]
    simp [nonempty]

theorem tagAt?_spell (tag : Tag) (tags : List Tag) (rest : Text) :
    tagAt? (spell (tag :: tags) ++ rest) = some (tag.name, tag.blanks ++ (spell tags ++ rest)) := by
  rw [tagAt?_eq_some_iff]
  exact ⟨by simp, tag.nonempty, tag.unclosed⟩

/-- A text without a tag at its start has no tags to split off. -/
theorem eq_nil_of_tagAt?_eq_none {tags : List Tag} (untagged : tagAt? content = none)
    (spelled : content = spell tags ++ rest) : tags = [] := by
  cases tags with
  | nil => rfl
  | cons tag tags =>
    rw [spelled, tagAt?_spell] at untagged
    cases untagged

section

variable {name after : Text} (found : tagAt? content = some (name, after))
include found

/-- A tag that was found can be split off in front of any others. -/
theorem exists_tag_spell : ∃ tag : Tag, tag.name = name ∧ ∀ tags rest,
    trimStart after = spell tags ++ rest → content = spell (tag :: tags) ++ rest := by
  obtain ⟨spelled, nonempty, unclosed⟩ := tagAt?_eq_some_iff.mp found
  obtain ⟨blanks, cut, blank⟩ := exists_blanks after
  refine ⟨⟨name, blanks, nonempty, unclosed, blank⟩, rfl, fun tags rest behind => ?_⟩
  rw [spelled, cut, behind]
  simp

/-- The first of several tags is the tag that is found, and the others stand behind it. -/
theorem exists_rest_of_spell_cons {tag : Tag} {tags : List Tag}
    (spelled : content = spell (tag :: tags) ++ rest) :
    tag.name = name ∧
      ∃ others, trimStart after = spell tags ++ others ∧ trimStart others = trimStart rest := by
  rw [spelled, tagAt?_spell, Option.some.injEq, Prod.mk.injEq] at found
  obtain ⟨named, rfl⟩ := found
  refine ⟨named, ?_⟩
  cases tags with
  | nil =>
    refine ⟨trimStart rest, ?_, trimStart_trimStart rest⟩
    exact List.dropWhile_append_of_pos tag.blank
  | cons next tags =>
    refine ⟨rest, trimStart_append_of_visible tag.blank ?_, rfl⟩
    simp only [spell_cons, List.cons_append, List.head?_cons, Option.mem_some_iff]
    rintro c rfl
    decide

end

section

variable {β : Type} (f : Text → Option β)

theorem findSome?_afterTags_of_none (untagged : tagAt? content = none) :
    (afterTags content).reverse.findSome? f = f content := by
  rw [afterTags]
  split
  · simp
  · rename_i found
    rw [untagged] at found
    cases found

theorem findSome?_afterTags_of_some {name after : Text}
    (found : tagAt? content = some (name, after)) :
    (afterTags content).reverse.findSome? f =
      ((afterTags (trimStart after)).reverse.findSome? f).or (f content) := by
  rw [afterTags]
  split
  · rename_i untagged
    rw [untagged] at found
    cases found
  · rename_i other behind same
    rw [found, Option.some.injEq, Prod.mk.injEq] at same
    rw [List.reverse_cons, List.findSome?_append, same.2]
    simp

variable {f} (blind : ∀ text, f (trimStart text) = f text)
include blind

/-- Behind the first tag, the search meets the same end of the line with one tag less. -/
theorem exists_rest_of_blind {name after : Text} (found : tagAt? content = some (name, after))
    {tag : Tag} {tags : List Tag} (spelled : content = spell (tag :: tags) ++ rest) :
    ∃ others, trimStart after = spell tags ++ others ∧ f others = f rest := by
  obtain ⟨_, others, behind, same⟩ := exists_rest_of_spell_cons found spelled
  exact ⟨others, behind, by rw [← blind others, same, blind]⟩

/-- The search fails only if nothing is found behind any number of tags. -/
theorem findSome?_afterTags_eq_none_iff :
    (afterTags content).reverse.findSome? f = none ↔
      ∀ tags rest, content = spell tags ++ rest → f rest = none := by
  induction content using afterTags.induct with
  | case1 content untagged =>
    rw [findSome?_afterTags_of_none f untagged]
    constructor
    · rintro nothing tags rest spelled
      obtain rfl := eq_nil_of_tagAt?_eq_none untagged spelled
      obtain rfl : content = rest := spelled
      exact nothing
    · exact fun nothing => nothing [] content rfl
  | case2 content name after found ih =>
    rw [findSome?_afterTags_of_some f found, Option.or_eq_none_iff, ih]
    constructor
    · rintro ⟨later, here⟩ tags rest spelled
      cases tags with
      | nil =>
        obtain rfl : content = rest := spelled
        exact here
      | cons tag tags =>
        obtain ⟨others, behind, same⟩ := exists_rest_of_blind blind found spelled
        exact same ▸ later tags others behind
    · intro nothing
      obtain ⟨tag, _, split⟩ := exists_tag_spell found
      exact ⟨fun tags rest behind => nothing _ rest (split tags rest behind),
        nothing [] content rfl⟩

/-- The search finds what stands behind the largest number of tags behind which there is something
to find. -/
theorem findSome?_afterTags_eq_some_iff {result : β} :
    (afterTags content).reverse.findSome? f = some result ↔
      ∃ tags rest, content = spell tags ++ rest ∧ f rest = some result ∧
        ∀ more others, content = spell more ++ others → tags.length < more.length →
          f others = none := by
  induction content using afterTags.induct with
  | case1 content untagged =>
    rw [findSome?_afterTags_of_none f untagged]
    constructor
    · intro here
      refine ⟨[], content, rfl, here, fun more others spelled longer => ?_⟩
      rw [eq_nil_of_tagAt?_eq_none untagged spelled] at longer
      exact absurd longer (Nat.lt_irrefl 0)
    · rintro ⟨tags, rest, spelled, here, -⟩
      obtain rfl := eq_nil_of_tagAt?_eq_none untagged spelled
      exact spelled ▸ here
  | case2 content name after found ih =>
    obtain ⟨tag, _, split⟩ := exists_tag_spell found
    rw [findSome?_afterTags_of_some f found, Option.or_eq_some_iff, ih,
      findSome?_afterTags_eq_none_iff blind]
    constructor
    · rintro (⟨tags, rest, behind, later, most⟩ | ⟨nothing, here⟩)
      · refine ⟨tag :: tags, rest, split tags rest behind, later, ?_⟩
        rintro (_ | ⟨first, more⟩) others spelled longer
        · exact absurd longer (Nat.not_lt_zero _)
        · obtain ⟨others', further, same⟩ := exists_rest_of_blind blind found spelled
          exact same ▸ most more others' further (Nat.lt_of_succ_lt_succ longer)
      · refine ⟨[], content, rfl, here, ?_⟩
        rintro (_ | ⟨first, more⟩) others spelled longer
        · exact absurd longer (Nat.lt_irrefl 0)
        · obtain ⟨others', further, same⟩ := exists_rest_of_blind blind found spelled
          exact same ▸ nothing more others' further
    · rintro ⟨_ | ⟨first, tags⟩, rest, spelled, here, most⟩
      · refine .inr ⟨fun tags rest behind => ?_, spelled ▸ here⟩
        exact most _ rest (split tags rest behind) (Nat.succ_pos _)
      · obtain ⟨rest', behind, same⟩ := exists_rest_of_blind blind found spelled
        refine .inl ⟨tags, rest', behind, same.trans here, fun more others further longer => ?_⟩
        exact most _ others (split more others further) (Nat.succ_lt_succ longer)

end

theorem annotates_iff {tags : List Tag} :
    (∃ blanks ending, Annotates content tags blanks type ending) ↔
    ∃ rest, content = spell tags ++ rest ∧ onlyType? rest = some type := by
  constructor
  · rintro ⟨blanks, ending, spelled, blank, isType, ended⟩
    exact ⟨_, spelled, onlyType?_eq_some_iff.mpr ⟨blanks, ending, rfl, blank, isType, ended⟩⟩
  · rintro ⟨rest, spelled, found⟩
    obtain ⟨blanks, ending, rfl, blank, isType, ended⟩ := onlyType?_eq_some_iff.mp found
    exact ⟨blanks, ending, spelled, blank, isType, ended⟩

theorem opens_iff {tags : List Tag} : (∃ blanks, Opens content tags blanks type rest) ↔
    ∃ behind, content = spell tags ++ behind ∧ openingType? behind = some (type, rest) := by
  constructor
  · rintro ⟨blanks, spelled, blank, isType, stopped⟩
    exact ⟨_, spelled, openingType?_eq_some_iff.mpr ⟨blanks, rfl, blank, isType, stopped⟩⟩
  · rintro ⟨behind, spelled, found⟩
    obtain ⟨blanks, rfl, blank, isType, stopped⟩ := openingType?_eq_some_iff.mp found
    exact ⟨blanks, spelled, blank, isType, stopped⟩

/-- A line has a type if and only if it can be read as tags, blanks, a type and blanks. -/
theorem isSome_wholeType?_iff : (wholeType? content).isSome = true ↔
    ∃ tags blanks type ending, Annotates content tags blanks type ending := by
  rw [← not_iff_not, Bool.not_eq_true, Option.isSome_eq_false_iff, Option.isNone_iff_eq_none,
    wholeType?, findSome?_afterTags_eq_none_iff onlyType?_trimStart]
  constructor
  · rintro nothing ⟨tags, blanks, type, ending, annotates⟩
    obtain ⟨rest, spelled, found⟩ := annotates_iff.mp ⟨blanks, ending, annotates⟩
    rw [nothing tags rest spelled] at found
    cases found
  · intro unread tags rest spelled
    refine Option.eq_none_iff_forall_ne_some.mpr fun type found => ?_
    obtain ⟨blanks, ending, annotates⟩ := annotates_iff.mpr ⟨rest, spelled, found⟩
    exact unread ⟨tags, blanks, type, ending, annotates⟩

/-- The type of a line is that of the reading with the most tags. -/
theorem wholeType?_eq_some_iff : wholeType? content = some type ↔
    ∃ tags blanks ending, Annotates content tags blanks type ending ∧
      ∀ more blanks' type' ending', Annotates content more blanks' type' ending' →
        more.length ≤ tags.length := by
  rw [wholeType?, findSome?_afterTags_eq_some_iff onlyType?_trimStart]
  constructor
  · rintro ⟨tags, rest, spelled, found, most⟩
    obtain ⟨blanks, ending, annotates⟩ := annotates_iff.mpr ⟨rest, spelled, found⟩
    refine ⟨tags, blanks, ending, annotates, fun more blanks' type' ending' other => ?_⟩
    obtain ⟨others, spelled', found'⟩ := annotates_iff.mp ⟨blanks', ending', other⟩
    by_contra longer
    rw [most more others spelled' (Nat.lt_of_not_le longer)] at found'
    cases found'
  · rintro ⟨tags, blanks, ending, annotates, most⟩
    obtain ⟨rest, spelled, found⟩ := annotates_iff.mp ⟨blanks, ending, annotates⟩
    refine ⟨tags, rest, spelled, found, fun more others spelled' longer => ?_⟩
    refine Option.eq_none_iff_forall_ne_some.mpr fun type' found' => ?_
    obtain ⟨blanks', ending', other⟩ := annotates_iff.mpr ⟨others, spelled', found'⟩
    exact absurd longer (Nat.not_lt.mpr (most more blanks' type' ending' other))

/-- A line has a type if and only if it can be read as tags, blanks, a type and blanks; and its type
is then that of the reading with the most tags. -/
theorem type_of_mostTags (content : Text) :
    ((wholeType? content).isSome = true ↔
        ∃ tags blanks type ending, Annotates content tags blanks type ending) ∧
      ∀ type, wholeType? content = some type ↔
        ∃ tags blanks ending, Annotates content tags blanks type ending ∧
          ∀ more blanks' type' ending', Annotates content more blanks' type' ending' →
            more.length ≤ tags.length :=
  ⟨isSome_wholeType?_iff, fun _ => wholeType?_eq_some_iff⟩

example : wholeType? "[a]".toList = some "[a]".toList := by decide +kernel

example : wholeType? "[a] [b]".toList = some "[b]".toList := by decide +kernel

end CommentDocs.TypeExpr
