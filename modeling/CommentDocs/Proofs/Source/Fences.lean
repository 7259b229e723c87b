import CommentDocs.Source.Fence
import Mathlib.Data.List.Infix
import Mathlib.Data.List.TakeWhile
import Mathlib.Logic.Function.Iterate

/-!
# Texts without fences

A sweep changes a text exactly if it holds an opening or a closing fence, and then makes it
shorter by at least the length of a fence. So after a bounded number of sweeps nothing changes any
more, and what is left is free of fences. All that a sweep takes away are slashes, asterisks and
equal signs.
-/

namespace CommentDocs.Fence

open Text

def bars : Text := ['=', '=', '=', '=', '=']

def opening : Text := '/' :: '*' :: bars

def closing : Text := bars ++ ['*', '/']

def Occurs (text : Text) : Prop :=
  opening <:+: text ∨ closing <:+: text

/-- Whether a character is none of those that fences are made of. -/
def isCode (c : Char) : Bool :=
  c ≠ '/' && c ≠ '*' && c ≠ '='

theorem Occurs.of_infix {part text : Text} (inside : part <:+: text) (h : Occurs part) :
    Occurs text :=
  h.imp (·.trans inside) (·.trans inside)

theorem Occurs.length_le {text : Text} (h : Occurs text) : 7 ≤ text.length :=
  h.elim (·.length_le) (·.length_le)

theorem eq_of_mem_bars {text : Text} {c : Char} (mem : c ∈ text.takeWhile (· = '=')) : c = '=' := by
  simpa using List.mem_takeWhile_imp mem

theorem exists_bars {text : Text} (h : opensWithBars text = true) :
    ∃ more, text.takeWhile (· = '=') = List.replicate (leastBars + more) '=' := by
  have enough : leastBars ≤ (text.takeWhile (· = '=')).length := of_decide_eq_true h
  obtain ⟨more, count⟩ := Nat.exists_eq_add_of_le enough
  exact ⟨more, List.eq_replicate_iff.mpr ⟨count, fun _ => eq_of_mem_bars⟩⟩

theorem isCode_of_mem_bars {text : Text} {c : Char} (mem : c ∈ text.takeWhile (· = '=')) :
    isCode c = false := by
  rw [eq_of_mem_bars mem]
  decide

theorem opensWithBars_append (rest : Text) : opensWithBars (bars ++ rest) = true := by
  simp [opensWithBars, leastBars, bars]

theorem afterFence?_opening (rest : Text) :
    afterFence? (opening ++ rest) = some (rest.dropWhile (· = '=')) := by
  change (if opensWithBars (bars ++ rest) then some (rest.dropWhile (· = '=')) else none) = _
  rw [if_pos (opensWithBars_append rest)]

theorem afterFence?_closing (rest : Text) : afterFence? (closing ++ rest) = some rest := by
  change (if opensWithBars (bars ++ '*' :: '/' :: rest) then some rest else none) = _
  rw [if_pos (opensWithBars_append _)]

/-- What stands before the text after a fence is a fence, and nothing of it is code. -/
theorem exists_fence {text after : Text} (h : afterFence? text = some after) :
    ∃ fence, text = fence ++ after ∧ Occurs fence ∧ ∀ c ∈ fence, isCode c = false := by
  unfold afterFence? at h
  split at h
  · rename_i rest
    split at h
    · rename_i enough
      cases h
      refine ⟨'/' :: '*' :: rest.takeWhile (· = '='), ?_, .inl ?_, ?_⟩
      · simp only [List.cons_append, List.takeWhile_append_dropWhile]
      · obtain ⟨more, bars⟩ := exists_bars enough
        rw [bars, List.replicate_add]
        exact ⟨[], List.replicate more '=', rfl⟩
      · simp only [List.forall_mem_cons]
        exact ⟨by decide, by decide, fun _ => isCode_of_mem_bars⟩
    · cases h
  · rename_i rest
    split at h
    · rename_i enough
      split at h
      · rename_i tail found
        cases h
        refine ⟨('=' :: rest).takeWhile (· = '=') ++ ['*', '/'], ?_, .inr ?_, ?_⟩
        · have cut : ('=' :: rest).dropWhile (· = '=') = '*' :: '/' :: after := by
            simpa using found
          rw [List.append_assoc, List.cons_append, List.cons_append, List.nil_append, ← cut,
            List.takeWhile_append_dropWhile]
        · obtain ⟨more, bars⟩ := exists_bars enough
          rw [bars, Nat.add_comm, List.replicate_add, List.append_assoc]
          exact ⟨List.replicate more '=', [], List.append_nil _⟩
        · simp only [List.forall_mem_append, List.forall_mem_cons]
          exact ⟨fun _ => isCode_of_mem_bars, by decide, by decide, by simp⟩
      · cases h
    · cases h
  · cases h

/-- A fence occurs in a text if one is at its start or one occurs after the first character. -/
theorem occurs_cons_iff {c : Char} {rest : Text} :
    Occurs (c :: rest) ↔ (afterFence? (c :: rest)).isSome ∨ Occurs rest := by
  constructor
  · have start {fence : Text} (starts : ∀ tail, (afterFence? (fence ++ tail)).isSome)
        (inside : fence <:+: c :: rest) : (afterFence? (c :: rest)).isSome ∨ fence <:+: rest := by
      refine (List.infix_cons_iff.mp inside).imp_left ?_
      rintro ⟨tail, same⟩
      exact same ▸ starts tail
    rintro (opens | closes)
    · exact (start (fun tail => by rw [afterFence?_opening]; rfl) opens).imp_right .inl
    · exact (start (fun tail => by rw [afterFence?_closing]; rfl) closes).imp_right .inr
  · rintro (found | later)
    · obtain ⟨after, found⟩ := Option.isSome_iff_exists.mp found
      obtain ⟨fence, same, occurs, _⟩ := exists_fence found
      exact same ▸ occurs.of_infix (List.prefix_append fence after).isInfix
    · exact later.of_infix (List.suffix_cons c rest).isInfix

theorem not_occurs_nil : ¬ Occurs [] := fun h => absurd h.length_le (by decide)

/-- A sweep leaves a text as it is, or takes away at least the length of a fence. -/
theorem sweep_eq_or_length (text : Text) :
    sweep text = text ∨ (sweep text).length + 7 ≤ text.length := by
  fun_induction sweep text with
  | case1 => exact .inl rfl
  | case2 c rest after found ih =>
    obtain ⟨fence, same, occurs, _⟩ := exists_fence found
    have long := occurs.length_le
    rw [same, List.length_append]
    right
    rcases ih with same | shorter
    · rw [same]; omega
    · omega
  | case3 c rest found ih =>
    rw [List.cons.injEq, List.length_cons, List.length_cons]
    exact ih.imp (⟨rfl, ·⟩) (by omega)

theorem sweep_eq_self_iff (text : Text) : sweep text = text ↔ ¬ Occurs text := by
  fun_induction sweep text with
  | case1 => exact iff_of_true rfl not_occurs_nil
  | case2 c rest after found ih =>
    have occurs : Occurs (c :: rest) := occurs_cons_iff.mpr (.inl (found ▸ rfl))
    refine iff_of_false (fun same => ?_) (not_not_intro occurs)
    have shorter := length_of_afterFence? found
    rcases sweep_eq_or_length after with kept | cut
    · rw [kept] at same
      rw [same] at shorter
      exact lt_irrefl _ shorter
    · rw [same] at cut
      omega
  | case3 c rest found ih =>
    rw [occurs_cons_iff, found, List.cons.injEq]
    simpa using ih

theorem filter_sweep (text : Text) : (sweep text).filter isCode = text.filter isCode := by
  fun_induction sweep text with
  | case1 => rfl
  | case2 c rest after found ih =>
    obtain ⟨fence, same, _, noCode⟩ := exists_fence found
    have none : fence.filter isCode = [] :=
      List.filter_eq_nil_iff.mpr fun c mem => by simp [noCode c mem]
    rw [same, List.filter_append, none, List.nil_append, ih]
  | case3 c rest found ih => rw [List.filter_cons, List.filter_cons, ih]

/-- Sweeps are repeated until one changes nothing. -/
theorem strip_eq (text : Text) :
    strip text = if sweep text = text then text else strip (sweep text) := by
  rw [strip]
  rcases sweep_eq_or_length text with same | shorter
  · rw [if_neg (by rw [same]; exact lt_irrefl _), if_pos same]
  · have changed : sweep text ≠ text := fun same => by rw [same] at shorter; omega
    rw [if_pos (by omega), if_neg changed]

/-- What holds of a text that no sweep changes, and of a text if it holds of the swept one, holds
of every text. -/
theorem sweep_induction {motive : Text → Prop} (done : ∀ text, sweep text = text → motive text)
    (again : ∀ text, sweep text ≠ text → motive (sweep text) → motive text) (text : Text) :
    motive text := by
  induction size : text.length using Nat.strong_induction_on generalizing text with
  | _ size ih =>
    subst size
    rcases sweep_eq_or_length text with same | shorter
    · exact done text same
    · have changed : sweep text ≠ text := fun same => by rw [same] at shorter; omega
      exact again text changed (ih _ (by omega) _ rfl)

/-- The number of sweeps until nothing changes is bounded by the length of the text. -/
theorem exists_sweeps (text : Text) :
    ∃ sweeps, 7 * sweeps ≤ text.length ∧ sweep^[sweeps] text = strip text ∧
      ∀ earlier < sweeps, sweep (sweep^[earlier] text) ≠ sweep^[earlier] text := by
  induction text using sweep_induction with
  | done text same =>
    exact ⟨0, Nat.zero_le _, by rw [strip_eq, if_pos same]; rfl, fun _ early =>
      absurd early (by omega)⟩
  | again text changed ih =>
    obtain ⟨sweeps, bound, reached, changing⟩ := ih
    have shorter := (sweep_eq_or_length text).resolve_left changed
    refine ⟨sweeps + 1, by omega, ?_, fun earlier early => ?_⟩
    · rw [Function.iterate_succ_apply, reached, strip_eq text, if_neg changed]
    · cases earlier with
      | zero => exact changed
      | succ earlier => exact changing earlier (by omega)

theorem sweep_strip (text : Text) : sweep (strip text) = strip text := by
  induction text using sweep_induction with
  | done text same => rwa [strip_eq, if_pos same]
  | again text changed ih => rwa [strip_eq, if_neg changed]

theorem filter_strip (text : Text) : (strip text).filter isCode = text.filter isCode := by
  induction text using sweep_induction with
  | done text same => rw [strip_eq, if_pos same]
  | again text changed ih => rw [strip_eq, if_neg changed, ih, filter_sweep]

theorem strip_eq_self_iff (text : Text) : strip text = text ↔ ¬ Occurs text := by
  rw [← sweep_eq_self_iff]
  constructor
  · intro same
    rw [← same]
    exact sweep_strip text
  · intro same
    rw [strip_eq, if_pos same]

/-- Repeating the sweep ends after a bounded number of sweeps, each of which but the last changes
the text. What it ends with holds no fence and stays as it is when it is stripped again; it is the
given text exactly if that holds no fence, and all code is kept in its order. -/
theorem strip_removes_fences (text : Text) :
    (∃ sweeps, 7 * sweeps ≤ text.length ∧ sweep^[sweeps] text = strip text ∧
        sweep (strip text) = strip text ∧
        ∀ earlier < sweeps, sweep (sweep^[earlier] text) ≠ sweep^[earlier] text) ∧
      (¬ opening <:+: strip text ∧ ¬ closing <:+: strip text) ∧
      strip (strip text) = strip text ∧
      (strip text = text ↔ ¬ opening <:+: text ∧ ¬ closing <:+: text) ∧
      (strip text).filter isCode = text.filter isCode := by
  have stable := sweep_strip text
  obtain ⟨sweeps, bound, reached, changing⟩ := exists_sweeps text
  have clean : ¬ Occurs (strip text) := (sweep_eq_self_iff _).mp stable
  refine ⟨⟨sweeps, bound, reached, stable, changing⟩, not_or.mp clean,
    (strip_eq_self_iff _).mpr clean, ?_, filter_strip text⟩
  rw [strip_eq_self_iff, Occurs, not_or]

/-- What the first sweep takes away leaves an opening fence behind. -/
theorem strip_removes_fences_joined :
    let text := "x/=====*/*===== z".toList
    sweep text = "x/*===== z".toList ∧ sweep (sweep text) = "x z".toList ∧
      strip text ≠ text ∧ ¬ opening <:+: strip text ∧
      (strip text).filter isCode = "x z".toList := by
  intro text
  obtain ⟨_, ⟨opens, _⟩, _, unchanged, kept⟩ := strip_removes_fences text
  have inside : closing <:+: text := by decide
  exact ⟨by decide +kernel, by decide +kernel, fun same => (unchanged.mp same).2 inside, opens,
    kept.trans (by decide)⟩

end CommentDocs.Fence
