import CommentDocs.Proofs.Binding.Effects
import CommentDocs.Proofs.Module.Isolation

/-!
# What type links lead to

A type text is replaced by a value only if that value is worth linking to, and it stays so: the
type, the origin and the module of a value never change. Hence every link of a module's
documentation leads to a value that was written in the source of the module. Values that
documentation adds are written nowhere, so no link leads to one of them.

Both facts are shown for every change, then for every step, and so for the steps of a walk up
to any point.
-/

namespace CommentDocs

open Binding Syntax

variable {δ : Type}

namespace Store

/-- Every link leads to a value that is worth linking to. -/
def LinksUsable (store : Store δ) : Prop :=
  ∀ id value link, store.value? id = some value → value.doc.type = .value link → store.Offers link

variable {store : Store δ}

/-- A change keeps what makes values linkable. -/
def KeepsKind (change : Value δ → Value δ) : Prop :=
  ∀ value, (change value).type = value.type ∧ (change value).origin = value.origin ∧
    (change value).relatedModule = value.relatedModule

theorem Offers.update {link : ValueId} (offered : store.Offers link) (id : ValueId)
    {change : Value δ → Value δ} (keeps : KeepsKind change) :
    (store.update id change).Offers link := by
  obtain ⟨value, found, linkable⟩ := offered
  unfold Offers
  rw [value?_update]
  split
  · rename_i same
    rw [← same, found]
    obtain ⟨type, origin, relatedModule⟩ := keeps value
    exact ⟨change value, rfl, type ▸ linkable.type, origin ▸ linkable.origin,
      relatedModule ▸ linkable.relatedModule⟩
  · exact ⟨value, found, linkable⟩

/-- A change that leaves documentation and what makes values linkable leaves links usable. -/
theorem LinksUsable.update (usable : store.LinksUsable) (id : ValueId)
    {change : Value δ → Value δ} (doc : ∀ value, (change value).doc = value.doc)
    (keeps : KeepsKind change) : (store.update id change).LinksUsable := by
  intro other value link found linked
  obtain ⟨old, present, rfl⟩ := store.eq_of_value?_update found
  have former : old.doc.type = .value link := by
    split at linked
    · rwa [doc] at linked
    · exact linked
  exact (usable other old link present former).update id keeps

theorem Offers.add {link : ValueId} (offered : store.Offers link) (value : Value δ) :
    (store.add value).Offers link := by
  obtain ⟨target, found, linkable⟩ := offered
  exact ⟨target, (store.value?_add_of_lt (store.lt_nextId found) value).trans found, linkable⟩

/-- A new value without documentation links to nothing. -/
theorem LinksUsable.add (usable : store.LinksUsable) {value : Value δ}
    (undocumented : value.doc = {}) : (store.add value).LinksUsable := by
  intro id found link present linked
  rw [value?_add] at present
  split at present
  · cases present
    rw [undocumented] at linked
    cases linked
  · exact (usable id found link present linked).add value

end Store

/-- A merged type is a link only if one of the types was. -/
theorem Merge.eq_value_of_type {old new : TypeNote} {link : ValueId}
    (merged : Merge.type old new = .value link) : old = .value link ∨ new = .value link := by
  unfold Merge.type at merged
  split at merged
  · cases new with
    | text text => cases merged
    | value id => exact .inr merged
    | datum datum => cases merged
  · exact .inl merged

namespace Binding

variable {site : Site} {node : Node} {owner base : ValueId} {store after : Store δ}

theorem Change.linksUsable (change : Change site node owner base store after)
    (usable : store.LinksUsable) : after.LinksUsable := by
  cases change with
  | report event => exact usable
  | merge id offered =>
    intro other value link found linked
    obtain ⟨old, present, rfl⟩ := store.eq_of_value?_update found
    have useful : store.Offers link := by
      split at linked
      · rcases Merge.eq_value_of_type linked with former | new
        · exact usable other old link present former
        · exact offered link new
      · exact usable other old link present linked
    exact useful.update id fun _ => ⟨rfl, rfl, rfl⟩
  | add commented type => exact usable.add rfl
  | bind commented placed new added =>
    exact usable.update _ (fun _ => rfl) fun _ => ⟨rfl, rfl, rfl⟩
  | append commented documented first new found typed =>
    exact usable.update _ (fun _ => rfl) fun _ => ⟨rfl, rfl, rfl⟩

theorem Changes.linksUsable (changes : Changes site node owner base store after)
    (usable : store.LinksUsable) : after.LinksUsable := by
  induction changes with
  | refl => exact usable
  | tail _ change ih => exact change.linksUsable ih

/-- Values that a call adds were written nowhere. -/
theorem Change.origin_eq_unknown (change : Change site node owner base store after)
    {bound : ValueId}
    (former : ∀ id value, bound ≤ id → store.value? id = some value → value.origin = .unknown)
    {id : ValueId} {value : Value δ} (new : bound ≤ id) (found : after.value? id = some value) :
    value.origin = .unknown := by
  have updated {target : ValueId} {change : Value δ → Value δ}
      (found : (store.update target change).value? id = some value)
      (same : ∀ value, (change value).origin = value.origin) : value.origin = .unknown := by
    obtain ⟨old, present, rfl⟩ := store.eq_of_value?_update found
    split
    · exact (same old).trans (former id old new present)
    · exact former id old new present
  cases change with
  | report event => exact former id value new found
  | merge target offered => exact updated found fun _ => rfl
  | add commented type =>
    rw [Store.value?_add] at found
    split at found
    · cases found
      rfl
    · exact former id value new found
  | bind commented placed target added => exact updated found fun _ => rfl
  | append commented documented first made present typed => exact updated found fun _ => rfl

theorem Changes.origin_eq_unknown (changes : Changes site node owner base store after)
    {id : ValueId} {value : Value δ} (new : store.nextId ≤ id)
    (found : after.value? id = some value) : value.origin = .unknown := by
  induction changes generalizing id value with
  | refl => exact absurd (store.lt_nextId found) (Nat.not_lt.mpr new)
  | tail _ change ih => exact change.origin_eq_unknown (fun _ _ => ih) new found

end Binding

namespace ModuleDocs

variable (site : Site) (moduleId : Text)

theorem changes_bound (here : Occurrence) (value : ValueId) (frame : Option Frame)
    (store : Store Empty) :
    Changes site here.node value store.nextId store (bound site here value frame store) :=
  changes_document site here.node value (Nat.le_refl _) _

theorem linksUsable_apply {docs : ModuleDocs} (usable : docs.store.LinksUsable) (step : Step) :
    (docs.apply site step).store.LinksUsable := by
  cases step with
  | create type here => exact usable.add rfl
  | document here value frame =>
    exact (changes_bound site here value frame docs.store).linksUsable usable
  | publish name value => exact usable
  | setExports value => exact usable
  | _ => exact usable.update _ (fun _ => rfl) fun _ => ⟨rfl, rfl, rfl⟩

theorem linksUsable_ofSteps (steps : List Step) :
    (ofSteps site moduleId steps).store.LinksUsable := by
  induction steps using List.reverseRecOn with
  | nil => exact fun id value link found _ => nomatch found
  | append_singleton steps step ih =>
    rw [ofSteps_concat]
    exact linksUsable_apply site ih step

/-- The value was added while a node was documented: as a property, a prototype or a return. -/
def AddedByDocumentation (steps : List Step) (id : ValueId) : Prop :=
  ∃ before here owner frame, before ++ [.document here owner frame] <+: steps ∧
    (ofSteps site moduleId before).store.nextId ≤ id ∧
      id < (ofSteps site moduleId (before ++ [.document here owner frame])).store.nextId

variable {site moduleId}

theorem AddedByDocumentation.lt_nextId {steps : List Step} {id : ValueId}
    (added : AddedByDocumentation site moduleId steps id) :
    id < (ofSteps site moduleId steps).store.nextId := by
  obtain ⟨before, here, owner, frame, grown, _, last⟩ := added
  exact Nat.lt_of_lt_of_le last <| nextId_le_of_prefix site moduleId grown

/-- What a step adds by documentation, it adds by documenting a node. -/
theorem AddedByDocumentation.of_concat {steps : List Step} {step : Step} {id : ValueId}
    (added : AddedByDocumentation site moduleId (steps ++ [step]) id) :
    AddedByDocumentation site moduleId steps id ∨
      (ofSteps site moduleId steps).store.nextId ≤ id ∧
        ∃ here owner frame, step = .document here owner frame := by
  obtain ⟨before, here, owner, frame, grown, first, last⟩ := added
  rcases List.prefix_concat_iff.mp grown with equal | earlier
  · obtain ⟨rfl, same⟩ := List.append_inj' equal rfl
    exact .inr ⟨first, here, owner, frame, (List.cons.inj same).1.symm⟩
  · exact .inl ⟨before, here, owner, frame, earlier, first, last⟩

variable (site moduleId)

theorem moduleId_ofSteps (steps : List Step) :
    (ofSteps site moduleId steps).moduleId = moduleId := by
  induction steps using List.reverseRecOn with
  | nil => rfl
  | append_singleton steps step ih =>
    rw [ofSteps_concat]
    cases step <;> exact ih

/-- The origin of a value stays. A new value was created in the source, or it was added by
documentation and was written nowhere. -/
theorem origin_apply (docs : ModuleDocs) (step : Step) {id : ValueId} {value : Value Empty}
    (found : (docs.apply site step).store.value? id = some value) :
    (∃ old, docs.store.value? id = some old ∧ value.origin = old.origin) ∨
      docs.store.nextId ≤ id ∧ (value.origin = .unknown ∨
        value.origin = .source docs.moduleId ∧ ∃ type here, step = .create type here) := by
  have updated {target : ValueId} {change : Value Empty → Value Empty}
      (found : (docs.store.update target change).value? id = some value)
      (same : ∀ value, (change value).origin = value.origin) :
      ∃ old, docs.store.value? id = some old ∧ value.origin = old.origin := by
    obtain ⟨old, present, rfl⟩ := docs.store.eq_of_value?_update found
    refine ⟨old, present, ?_⟩
    split
    · exact same old
    · rfl
  cases step with
  | create type here =>
    have found := (docs.store.value?_add _ _).symm.trans found
    split at found
    · rename_i new
      cases found
      exact .inr ⟨Nat.le_of_eq new.symm, .inr ⟨rfl, type, here, rfl⟩⟩
    · exact .inl ⟨value, found, rfl⟩
  | document here owner frame =>
    have changes := changes_bound site here owner frame docs.store
    by_cases old : id < docs.store.nextId
    · obtain ⟨former, present, equal⟩ :=
        Store.exists_of_declaration?_eq (changes.declaration?_eq old).symm found
      have origin : former.declaration.origin = value.declaration.origin := by rw [equal]
      exact .inl ⟨former, present, origin.symm⟩
    · have new := Nat.le_of_not_lt old
      exact .inr ⟨new, .inl (changes.origin_eq_unknown new found)⟩
  | publish name value => exact .inl ⟨_, found, rfl⟩
  | setExports value => exact .inl ⟨_, found, rfl⟩
  | _ => exact .inl (updated found fun _ => rfl)

/-- A value of a module was written in its source, or written nowhere. Those that were added
by documentation were written nowhere. -/
theorem origin_ofSteps (steps : List Step) {id : ValueId} {value : Value Empty}
    (found : (ofSteps site moduleId steps).store.value? id = some value) :
    value.origin = .unknown ∨
      value.origin = .source moduleId ∧ ¬ AddedByDocumentation site moduleId steps id := by
  induction steps using List.reverseRecOn generalizing value with
  | nil => cases found
  | append_singleton steps step ih =>
    rw [ofSteps_concat] at found
    rcases origin_apply site _ step found with ⟨old, present, same⟩ | ⟨new, origin⟩
    · rcases ih present with unknown | ⟨written, other⟩
      · exact .inl (same.trans unknown)
      · refine .inr ⟨same.trans written, fun added => ?_⟩
        rcases added.of_concat with earlier | ⟨new, _⟩
        · exact other earlier
        · exact absurd (Store.lt_nextId _ present) (Nat.not_lt.mpr new)
    · rcases origin with unknown | ⟨written, type, here, created⟩
      · exact .inl unknown
      · rw [moduleId_ofSteps] at written
        refine .inr ⟨written, fun added => ?_⟩
        rcases added.of_concat with earlier | ⟨_, there, owner, frame, documented⟩
        · exact absurd earlier.lt_nextId (Nat.not_lt.mpr new)
        · cases created.symm.trans documented

end ModuleDocs

namespace Walk

open ModuleDocs (Step)

/-- At every step of a walk, a link in the documentation of a value leads to a value that was
written in the source, has a type, stands for no module and has nothing left to compute. It
leads to no value that documentation added. -/
theorem links_usable (moduleId source : Text) (tree : Tree) {steps : List Step}
    (taken : steps <+: (ofSource moduleId source tree).history) {id link : ValueId}
    {value : Value Empty}
    (found : (ModuleDocs.ofSteps (siteOf source tree) moduleId steps).store.value? id = some value)
    (linked : value.doc.type = .value link) :
    (∃ later, ModuleDocs.ofSource moduleId source tree = ModuleDocs.applyAll (siteOf source tree)
        (ModuleDocs.ofSteps (siteOf source tree) moduleId steps) later) ∧
      ¬ ModuleDocs.AddedByDocumentation (siteOf source tree) moduleId steps link ∧
        ∃ target, (ModuleDocs.ofSteps (siteOf source tree) moduleId steps).store.value? link =
            some target ∧
          target.origin = .source moduleId ∧ target.type ≠ ModelType.undefined ∧
            target.relatedModule = none ∧ target.isEvaluated = true := by
  obtain ⟨target, present, linkable⟩ :=
    ModuleDocs.linksUsable_ofSteps (siteOf source tree) moduleId steps id value link found linked
  have written :=
    (ModuleDocs.origin_ofSteps (siteOf source tree) moduleId steps present).resolve_left
    fun unknown => by
      have known := linkable.origin
      rw [unknown] at known
      cases known
  obtain ⟨later, rest⟩ := taken
  have docs := (sound_ofSource moduleId source tree).docs
  rw [← rest, ModuleDocs.ofSteps_append] at docs
  refine ⟨⟨later, docs⟩, written.2, target, present, written.1, linkable.type,
    linkable.relatedModule, ?_⟩
  cases pending : target.pending with
  | none => rw [Value.isEvaluated, pending, Option.isNone_none]
  | some computation => cases computation

/-- An object literal with a member `m`, whose comment documents `m` and a property `k` that no
code mentions, both as of the type `A`. -/
def linkedSource : Text :=
  ["var A = \x7b\x7d;", "var o = \x7b", "// m: A", "// k: A", "m: 1\x7d;"].flatMap fun line =>
    line.toList ++ ['\n']

def linkedTree : Tree :=
  part "program" 0 45 none [
    part "variable_declaration" 0 11 none [
      token "var" 0,
      part "variable_declarator" 4 10 none [
        part "identifier" 4 5 (some "name") [],
        token "=" 6,
        part "object" 8 10 (some "value") [token "\x7b" 8, token "\x7d" 9]],
      token ";" 10],
    part "variable_declaration" 12 44 none [
      token "var" 12,
      part "variable_declarator" 16 43 none [
        part "identifier" 16 17 (some "name") [],
        token "=" 18,
        part "object" 20 43 (some "value") [
          token "\x7b" 20,
          part "comment" 22 29 none [],
          part "comment" 30 37 none [],
          part "pair" 38 42 none [
            part "property_identifier" 38 39 (some "key") [],
            token ":" 39,
            part "number" 41 42 (some "value") []],
          token "\x7d" 42]],
      token ";" 43]]

def linkedSteps : List Step :=
  (ofSource "app".toList linkedSource linkedTree).history

theorem siteOf_linked :
    siteOf linkedSource linkedTree = ⟨⟨linkedSource, tokensOf linkedSource linkedTree⟩, 0⟩ := by
  rw [siteOf, streamOf_eq_of_sorted (by decide +kernel)]

/-- The value that is made for `k` links to `A`. -/
theorem links_usable_property :
    linkedSteps.take 9 <+: (ofSource "app".toList linkedSource linkedTree).history ∧
      ∃ value target,
        (ModuleDocs.ofSteps (siteOf linkedSource linkedTree) "app".toList
          (linkedSteps.take 9)).store.value? 3 = some value ∧ value.doc.type = .value 0 ∧
        (ModuleDocs.ofSteps (siteOf linkedSource linkedTree) "app".toList
          (linkedSteps.take 9)).store.value? 0 = some target ∧
        target.origin = .source "app".toList := by
  have taken : linkedSteps.take 9 <+: (ofSource "app".toList linkedSource linkedTree).history :=
    List.take_prefix 9 _
  have linked : ((ModuleDocs.ofSteps (siteOf linkedSource linkedTree) "app".toList
      (linkedSteps.take 9)).store.value? 3).map (·.doc.type) = some (.value 0) := by
    simp only [linkedSteps, ofSource_eq, siteOf_linked]
    decide +kernel
  obtain ⟨value, found, link⟩ := Option.map_eq_some_iff.mp linked
  obtain ⟨_, _, target, present, origin, _⟩ := links_usable _ _ _ taken found link
  exact ⟨taken, value, target, found, link, present, origin⟩

end Walk

end CommentDocs
