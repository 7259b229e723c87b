import CommentDocs.Proofs.Module.History

/-!
# Contracts of a walk

A walk takes steps one at a time, and what it does next depends on what it has done. A
contract speaks about the steps taken so far: a computation that starts after steps with
property `P` ends after steps with property `Q`, it only adds steps, and every step that it
takes is `allowed` after those before it. The documentation needs no mention, since it is
what the steps come to.

The rules follow the ways in which a walk is put together. What holds of all allowed steps
can then be shown for a list of steps, without looking at the walk again.
-/

namespace CommentDocs.Walk

open Syntax
open ModuleDocs (Step)

section

variable {α : Type} {history before after : List α} {x y : α}

/-- Of two points of a history one comes first, or they are the same. -/
theorem point_cases (one : before ++ [x] <+: history) (another : after ++ [y] <+: history) :
    before ++ [x] <+: after ∨ (before = after ∧ x = y) ∨ after ++ [y] <+: before := by
  have cases_of_grown {before after : List α} {x y : α} (grown : before ++ [x] <+: after ++ [y]) :
      before ++ [x] <+: after ∨ before = after ∧ x = y := by
    rcases List.prefix_concat_iff.mp grown with same | earlier
    · obtain ⟨rfl, last⟩ := List.append_inj' same rfl
      exact .inr ⟨rfl, List.singleton_inj.mp last⟩
    · exact .inl earlier
  rcases List.prefix_or_prefix_of_prefix one another with grown | grown
  · exact (cases_of_grown grown).imp_right .inl
  · rcases cases_of_grown grown with later | ⟨rfl, rfl⟩
    · exact .inr (.inr later)
    · exact .inr (.inl ⟨rfl, rfl⟩)

theorem ne_of_point (one : before ++ [x] <+: after) : after ≠ before :=
  fun same => absurd one.length_le (by simp [same])

/-- At one point there is one element. -/
theorem eq_of_point (one : before ++ [x] <+: history) (another : before ++ [y] <+: history) :
    x = y := by
  rcases point_cases one another with earlier | ⟨-, same⟩ | later
  · exact absurd rfl (ne_of_point earlier)
  · exact same
  · exact absurd rfl (ne_of_point later)

theorem exists_point_of_mem (mem : x ∈ history) : ∃ before, before ++ [x] <+: history := by
  obtain ⟨before, after, rfl⟩ := List.append_of_mem mem
  exact ⟨before, after, by simp⟩

end

/-- Every step is allowed after the steps before it. -/
def Lawful (allowed : List Step → Step → Prop) (steps : List Step) : Prop :=
  ∀ earlier step later, steps = earlier ++ step :: later → allowed earlier step

section Lawful

variable {allowed : List Step → Step → Prop} {steps : List Step} {step : Step}

theorem Lawful.nil : Lawful allowed [] := fun earlier step later split => by
  simp at split

theorem Lawful.concat (lawful : Lawful allowed steps) (last : allowed steps step) :
    Lawful allowed (steps ++ [step]) := by
  intro earlier other later split
  rcases List.append_eq_append_iff.mp split with ⟨extra, rfl, right⟩ | ⟨extra, rfl, right⟩
  · cases extra with
    | nil =>
      simp only [List.nil_append, List.cons.injEq] at right
      simpa [right.1] using last
    | cons first rest => simp at right
  · cases extra with
    | nil =>
      simp only [List.nil_append, List.cons.injEq] at right
      simpa [right.1] using last
    | cons first rest =>
      simp only [List.cons_append, List.cons.injEq] at right
      exact lawful earlier other rest (by simp [right.1])

theorem Lawful.of_concat (lawful : Lawful allowed (steps ++ [step])) :
    Lawful allowed steps ∧ allowed steps step :=
  ⟨fun earlier other later split => lawful earlier other (later ++ [step]) (by simp [split]),
    lawful steps step [] rfl⟩

/-- The steps up to some point are lawful, too. -/
theorem Lawful.of_append {later : List Step} (lawful : Lawful allowed (steps ++ later)) :
    Lawful allowed steps := fun earlier step rest split =>
  lawful earlier step (rest ++ later) (by simp [split])

theorem Lawful.of_point {history : List Step} (lawful : Lawful allowed history)
    (taken : steps ++ [step] <+: history) : allowed steps step := by
  obtain ⟨rest, rfl⟩ := taken
  exact lawful steps step rest (by simp)

end Lawful

variable (site : Binding.Site) (moduleId : Text) (allowed : List Step → Step → Prop)

/-- A walk whose documentation is what its steps come to, all of them allowed. -/
structure Sound (walk : Walk) : Prop where
  docs : walk.docs = ModuleDocs.ofSteps site moduleId walk.history
  lawful : Lawful allowed walk.history

/-- A computation on sound walks, seen through the steps taken before and after it. -/
def Contract {α : Type} (P : List Step → Prop) (action : StateM Walk α)
    (Q : α → List Step → Prop) : Prop :=
  ∀ walk : Walk, walk.Sound site moduleId allowed → P walk.history →
    (action.run walk).2.Sound site moduleId allowed ∧
      walk.history <+: (action.run walk).2.history ∧
        Q (action.run walk).1 (action.run walk).2.history

namespace Contract

variable {site moduleId allowed} {α β : Type}
variable {P P' : List Step → Prop} {Q Q' : α → List Step → Prop}

theorem consequence {action : StateM Walk α} (h : Contract site moduleId allowed P action Q)
    (pre : ∀ steps, P' steps → P steps) (post : ∀ a steps, Q a steps → Q' a steps) :
    Contract site moduleId allowed P' action Q' := by
  intro walk sound start
  obtain ⟨after, grown, done⟩ := h walk sound (pre _ start)
  exact ⟨after, grown, post _ _ done⟩

theorem mono_post {action : StateM Walk α} (h : Contract site moduleId allowed P action Q)
    (post : ∀ a steps, Q a steps → Q' a steps) : Contract site moduleId allowed P action Q' :=
  h.consequence (fun _ start => start) post

theorem pure {a : α} (h : ∀ steps, P steps → Q a steps) :
    Contract site moduleId allowed P (Pure.pure a) Q := by
  intro walk sound start
  exact ⟨sound, List.prefix_refl _, h _ start⟩

theorem bind {first : StateM Walk α} {next : α → StateM Walk β} {R : β → List Step → Prop}
    (h : Contract site moduleId allowed P first Q)
    (rest : ∀ a, Contract site moduleId allowed (Q a) (next a) R) :
    Contract site moduleId allowed P (first >>= next) R := by
  intro walk sound start
  obtain ⟨middle, grown, reached⟩ := h walk sound start
  obtain ⟨after, more, done⟩ := rest _ _ middle reached
  exact ⟨after, grown.trans more, done⟩

/-- The steps taken so far may be used while a computation is looked at. -/
theorem with_entry {action : StateM Walk α}
    (h : ∀ entry, Lawful allowed entry → P entry →
      Contract site moduleId allowed (· = entry) action Q) :
    Contract site moduleId allowed P action Q := by
  intro walk sound start
  exact h walk.history sound.lawful start walk sound rfl

/-- What more steps cannot undo is kept. -/
theorem frame {action : StateM Walk α} {F : List Step → Prop}
    (h : Contract site moduleId allowed P action Q)
    (stable : ∀ earlier later, earlier <+: later → F earlier → F later) :
    Contract site moduleId allowed (fun steps => P steps ∧ F steps) action
      fun a steps => Q a steps ∧ F steps := by
  intro walk sound start
  obtain ⟨after, grown, done⟩ := h walk sound start.1
  exact ⟨after, grown, done, stable _ _ grown start.2⟩

theorem perform {step : Step} {Q : Unit → List Step → Prop}
    (h : ∀ steps, Lawful allowed steps → P steps → allowed steps step ∧ Q () (steps ++ [step])) :
    Contract site moduleId allowed P (perform site step) Q := by
  intro walk sound start
  obtain ⟨permitted, done⟩ := h walk.history sound.lawful start
  refine ⟨⟨?_, sound.lawful.concat permitted⟩, List.prefix_append _ _, done⟩
  exact (congrArg (ModuleDocs.apply site · step) sound.docs).trans
    (ModuleDocs.ofSteps_concat site moduleId walk.history step).symm

/-- The documentation so far is what the steps so far come to. -/
theorem current {next : ModuleDocs → StateM Walk β} {R : β → List Step → Prop}
    (h : ∀ steps, Lawful allowed steps → P steps →
      Contract site moduleId allowed (· = steps)
        (next (ModuleDocs.ofSteps site moduleId steps)) R) :
    Contract site moduleId allowed P (Walk.current >>= next) R := by
  intro walk sound start
  have run := h walk.history sound.lawful start walk sound rfl
  rw [← sound.docs] at run
  exact run

theorem create {type : Text} {here : Option Occurrence} {Q : ValueId → List Step → Prop}
    (h : ∀ steps, Lawful allowed steps → P steps →
      allowed steps (.create type here) ∧
        Q (ModuleDocs.ofSteps site moduleId steps).store.nextId (steps ++ [.create type here])) :
    Contract site moduleId allowed P (create site type here) Q := by
  refine current fun steps lawful start => ?_
  obtain ⟨permitted, done⟩ := h steps lawful start
  refine bind (Q := fun _ later => later = steps ++ [.create type here]) (perform ?_) fun _ => ?_
  · rintro _ _ rfl
    exact ⟨permitted, rfl⟩
  · refine pure ?_
    rintro _ rfl
    exact done

/-- Publishing takes two steps: the value gets a name, then the name is bound. -/
theorem publish {name : Text} {value : ValueId} {Q : Unit → List Step → Prop}
    (h : ∀ steps, Lawful allowed steps → P steps →
      allowed steps (.name value name) ∧
        allowed (steps ++ [.name value name]) (.publish name value) ∧
          Q () (steps ++ [.name value name] ++ [.publish name value])) :
    Contract site moduleId allowed P (publish site name value) Q := by
  refine with_entry fun steps lawful start => ?_
  obtain ⟨named, published, done⟩ := h steps lawful start
  refine bind (Q := fun _ later => later = steps ++ [.name value name]) (perform ?_) fun _ => ?_
  · rintro _ _ rfl
    exact ⟨named, rfl⟩
  · refine perform ?_
    rintro _ _ rfl
    exact ⟨published, done⟩

end Contract

/-- A computation that keeps an invariant of the steps taken so far. -/
def Maintains {α : Type} (inv : List Step → Prop) (P : List Step → Prop) (action : StateM Walk α)
    (Q : α → List Step → Prop) : Prop :=
  Contract site moduleId allowed (fun steps => inv steps ∧ P steps) action
    fun a steps => inv steps ∧ Q a steps

namespace Maintains

variable {site moduleId allowed} {α β : Type} {inv : List Step → Prop}
variable {P P' : List Step → Prop} {Q Q' : α → List Step → Prop}

theorem pure {a : α} (h : ∀ steps, P steps → Q a steps) :
    Maintains site moduleId allowed inv P (Pure.pure a) Q :=
  Contract.pure fun steps start => ⟨start.1, h steps start.2⟩

theorem bind {first : StateM Walk α} {next : α → StateM Walk β} {R : β → List Step → Prop}
    (h : Maintains site moduleId allowed inv P first Q)
    (rest : ∀ a, Maintains site moduleId allowed inv (Q a) (next a) R) :
    Maintains site moduleId allowed inv P (first >>= next) R :=
  Contract.bind h rest

theorem consequence {action : StateM Walk α} (h : Maintains site moduleId allowed inv P action Q)
    (pre : ∀ steps, P' steps → P steps) (post : ∀ a steps, Q a steps → Q' a steps) :
    Maintains site moduleId allowed inv P' action Q' :=
  Contract.consequence h (fun steps start => ⟨start.1, pre steps start.2⟩)
    fun a steps done => ⟨done.1, post a steps done.2⟩

/-- What needs nothing may start anywhere. -/
theorem anywhere {action : StateM Walk α}
    (h : Maintains site moduleId allowed inv (fun _ => True) action Q) :
    Maintains site moduleId allowed inv P action Q :=
  h.consequence (fun _ _ => trivial) fun _ _ done => done

theorem forget {action : StateM Walk α} (h : Maintains site moduleId allowed inv P action Q) :
    Maintains site moduleId allowed inv P action fun _ _ => True :=
  h.consequence (fun _ start => start) fun _ _ _ => trivial

/-- What more steps cannot undo is kept. -/
theorem frame {action : StateM Walk α} {F : List Step → Prop}
    (h : Maintains site moduleId allowed inv P action Q)
    (stable : ∀ earlier later, earlier <+: later → F earlier → F later) :
    Maintains site moduleId allowed inv (fun steps => P steps ∧ F steps) action
      fun a steps => Q a steps ∧ F steps :=
  (Contract.frame h stable).consequence (fun _ start => ⟨⟨start.1, start.2.1⟩, start.2.2⟩)
    fun _ _ done => ⟨done.1.1, done.1.2, done.2⟩

/-- What more steps cannot undo is kept by what needs nothing. -/
theorem keep {action : StateM Walk α} {F : List Step → Prop}
    (h : Maintains site moduleId allowed inv (fun _ => True) action Q)
    (stable : ∀ earlier later, earlier <+: later → F earlier → F later) :
    Maintains site moduleId allowed inv F action fun a steps => Q a steps ∧ F steps :=
  (h.frame stable).consequence (fun _ start => ⟨trivial, start⟩) fun _ _ done => done

theorem perform {step : Step} {Q : Unit → List Step → Prop}
    (h : ∀ steps, Lawful allowed steps → inv steps → P steps →
      allowed steps step ∧ inv (steps ++ [step]) ∧ Q () (steps ++ [step])) :
    Maintains site moduleId allowed inv P (perform site step) Q :=
  Contract.perform fun steps lawful start => h steps lawful start.1 start.2

theorem current {next : ModuleDocs → StateM Walk β} {R : β → List Step → Prop}
    (h : ∀ steps, P steps → Maintains site moduleId allowed inv (fun later => later = steps)
      (next (ModuleDocs.ofSteps site moduleId steps)) R) :
    Maintains site moduleId allowed inv P (Walk.current >>= next) R :=
  Contract.current fun steps _ start => Contract.consequence (h steps start.2)
    (fun _ same => ⟨same ▸ start.1, same⟩) fun _ _ done => done

end Maintains

end CommentDocs.Walk
