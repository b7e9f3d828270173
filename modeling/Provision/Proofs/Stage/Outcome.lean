import Provision.Proofs.Stage.Disambiguation
import Provision.Proofs.Stage.Scan

/-! # What a stage yields

A stage is conclusive exactly if some provider that it admits either objects or can be shown. -/

namespace Provision

/-! ## Closest items -/

theorem exists_least {ι : Type} (rank : ι → Rank) {items : List ι} (h : items ≠ []) :
    ∃ a ∈ items, ∀ b ∈ items, (rank b).before (rank a) = false := by
  induction items with
  | nil => exact absurd rfl h
  | cons a rest ih =>
      by_cases hrest : rest = []
      · subst hrest
        exact ⟨a, by simp, by simp [Rank.not_before_self]⟩
      · obtain ⟨m, hm, hleast⟩ := ih hrest
        cases ham : (rank a).before (rank m) with
        | true =>
            refine ⟨a, by simp, ?_⟩
            intro b hb
            rcases List.mem_cons.mp hb with rfl | hb
            · exact Rank.not_before_self _
            · exact Rank.before_asymm (Rank.before_of_not_before ham (hleast b hb))
        | false =>
            refine ⟨m, List.mem_cons_of_mem a hm, ?_⟩
            intro b hb
            rcases List.mem_cons.mp hb with rfl | hb
            · exact ham
            · exact hleast b hb

theorem closest_eq_nil_iff {ι : Type} {rank : ι → Rank} {items : List ι} :
    closest rank items = [] ↔ items = [] := by
  constructor
  · intro h
    cases items with
    | nil => rfl
    | cons first rest =>
        obtain ⟨a, ha, hleast⟩ := exists_least rank (List.cons_ne_nil first rest)
        have hmem : a ∈ closest rank (first :: rest) := mem_closest.mpr ⟨ha, hleast⟩
        simp [h] at hmem
  · rintro rfl
    rfl

/-! ## Resolutions -/

namespace Resolution

variable {σ α : Type} {result : Resolution σ α}

theorem isConclusive_empty : (.empty : Resolution σ α).isConclusive = false := rfl

theorem isSuccessful_iff : result.isSuccessful = true ↔ result.candidates ≠ [] := by
  simp [isSuccessful, isEmpty]

theorem candidates_ne_nil_of_isMultiple (h : result.isMultiple = true) :
    result.candidates ≠ [] := by
  apply List.ne_nil_of_length_pos
  have hlength : 1 < result.candidates.length := by simpa [isMultiple] using h
  omega

theorem eq_empty_of_not_conclusive (h : result.isConclusive = false) : result = .empty := by
  cases result with
  | found views =>
      cases views with
      | nil => rfl
      | cons view views => simp [isConclusive, isSuccessful, isEmpty, candidates] at h
  | refused message => simp [isConclusive, isRefused] at h

end Resolution

namespace Stage

/-! ## Runs -/

variable {σ α : Type} (stage : Stage σ α) (types : TypeSystem σ α) (context : TypeId)
  (providers : List (Provider σ α))

/-- Some provider that the stage admits does not accept the context. -/
def Objects : Prop :=
  ∃ p ∈ providers, stage.admits p = true ∧ p.validate types.tree context ≠ .valid

/-- Some provider that the stage admits can be shown. -/
def Finds : Prop :=
  ∃ p ∈ providers, stage.admits p = true ∧ (stage.view? p).isSome = true

/-- What a stage keeps of tied views. -/
def keep (lex : Lexicon) (views : List (View σ α)) : List (View σ α) :=
  match stage.namedFor with
  | some valueType => disambiguateNamed lex valueType views
  | none => views

theorem mem_of_mem_keep {lex : Lexicon} {views : List (View σ α)} {view : View σ α}
    (h : view ∈ stage.keep lex views) : view ∈ views := by
  unfold keep at h
  split at h
  · exact mem_of_mem_disambiguate h
  · exact h

theorem keep_eq_nil_iff {lex : Lexicon} {views : List (View σ α)} :
    stage.keep lex views = [] ↔ views = [] := by
  unfold keep
  split
  · exact disambiguate_eq_nil_iff
  · rfl

theorem objector?_eq_none_iff :
    stage.objector? types.tree context providers = none ↔
      ¬ stage.Objects types context providers := by
  simp [objector?, Objects, Validation.isValid]

theorem objects_of_objector {p : Provider σ α}
    (h : stage.objector? types.tree context providers = some p) :
    stage.Objects types context providers := by
  have hp := List.find?_some h
  simp only [Bool.and_eq_true, Bool.not_eq_true', Validation.isValid,
    decide_eq_false_iff_not] at hp
  exact ⟨p, List.mem_of_find?_eq_some h, hp⟩

theorem run_of_objector {p : Provider σ α}
    (h : stage.objector? types.tree context providers = some p) :
    stage.run types context providers =
      .refused (p.validate types.tree context).message? := by
  rw [run, scan_of_objector stage types.tree context h]

theorem run_of_not_objects (h : ¬ stage.Objects types context providers) :
    stage.run types context providers =
      .found (stage.keep types.lexicon (stage.closestViews (stage.shown providers))) := by
  have hscan := scan_of_no_objector
    ((objector?_eq_none_iff stage types context providers).mpr h) Holds.nothing
  simp only [run, hscan, List.nil_append, keep]
  cases stage.namedFor <;> rfl

theorem run_eq :
    stage.run types context providers =
      match stage.objector? types.tree context providers with
      | some p => .refused (p.validate types.tree context).message?
      | none => .found (stage.keep types.lexicon (stage.closestViews (stage.shown providers))) := by
  cases hobjector : stage.objector? types.tree context providers with
  | some p => exact run_of_objector stage types context providers hobjector
  | none =>
      exact run_of_not_objects stage types context providers
        ((objector?_eq_none_iff stage types context providers).mp hobjector)

theorem closestViews_shown_ne_nil_iff :
    stage.closestViews (stage.shown providers) ≠ [] ↔ stage.Finds providers := by
  have hviews : stage.closestViews (stage.shown providers) = [] ↔ stage.shown providers = [] := by
    have hclosest : closest stage.rank (stage.shown providers) = [] ↔ stage.shown providers = [] :=
      closest_eq_nil_iff
    rw [← hclosest, closestViews, List.filterMap_eq_nil_iff]
    constructor
    · intro h
      rw [List.eq_nil_iff_forall_not_mem]
      intro p hp
      obtain ⟨-, -, hview⟩ := mem_shown.mp (mem_closest.mp hp).1
      simp [h p hp] at hview
    · intro h
      simp [h]
  rw [ne_eq, hviews]
  simp [shown, Finds, Option.isSome_iff_ne_none]

theorem isRefused_run_iff :
    (stage.run types context providers).isRefused = true ↔
      stage.Objects types context providers := by
  cases hobjector : stage.objector? types.tree context providers with
  | some p =>
      rw [run_of_objector stage types context providers hobjector]
      simp [Resolution.isRefused, objects_of_objector stage types context providers hobjector]
  | none =>
      have hnot := (objector?_eq_none_iff stage types context providers).mp hobjector
      rw [run_of_not_objects stage types context providers hnot]
      simp [Resolution.isRefused, hnot]

/-- A stage ends a search exactly if some provider that it admits objects or can be shown. -/
theorem isConclusive_run_iff :
    (stage.run types context providers).isConclusive = true ↔
      stage.Objects types context providers ∨ stage.Finds providers := by
  by_cases hobjects : stage.Objects types context providers
  · have hrefused := (isRefused_run_iff stage types context providers).mpr hobjects
    simp [Resolution.isConclusive, hrefused, hobjects]
  · rw [run_of_not_objects stage types context providers hobjects]
    simp only [Resolution.isConclusive, Resolution.isRefused, Resolution.isSuccessful,
      Resolution.isEmpty, Resolution.candidates, hobjects, false_or, Bool.false_or,
      Bool.not_eq_true', List.isEmpty_eq_false_iff, ne_eq, keep_eq_nil_iff]
    exact closestViews_shown_ne_nil_iff stage providers

theorem isConclusive_run_iff_admits
    (showable : ∀ p, stage.admits p = true → (stage.view? p).isSome = true) :
    (stage.run types context providers).isConclusive = true ↔
      ∃ p ∈ providers, stage.admits p = true := by
  rw [isConclusive_run_iff]
  constructor
  · rintro (⟨p, hp, hadmits, -⟩ | ⟨p, hp, hadmits, -⟩)
    · exact ⟨p, hp, hadmits⟩
    · exact ⟨p, hp, hadmits⟩
  · rintro ⟨p, hp, hadmits⟩
    exact .inr ⟨p, hp, hadmits, showable p hadmits⟩

theorem not_objects_of_candidates (h : (stage.run types context providers).candidates ≠ []) :
    ¬ stage.Objects types context providers := by
  intro objects
  have hrefused := (isRefused_run_iff stage types context providers).mpr objects
  cases hrun : stage.run types context providers with
  | found views => simp [hrun, Resolution.isRefused] at hrefused
  | refused message => simp [hrun, Resolution.candidates] at h

/-- Every candidate shows one of the closest providers, which accepts the context. -/
theorem exists_closest_of_mem_candidates_run {view : View σ α}
    (h : view ∈ (stage.run types context providers).candidates) :
    ∃ p ∈ closest stage.rank (stage.shown providers),
      p.validate types.tree context = .valid ∧ stage.view? p = some view := by
  have accepted := not_objects_of_candidates stage types context providers (List.ne_nil_of_mem h)
  rw [run_of_not_objects stage types context providers accepted] at h
  have hmem := mem_of_mem_keep stage h
  obtain ⟨p, hp, hview⟩ := List.mem_filterMap.mp hmem
  obtain ⟨hprovider, hadmits, -⟩ := mem_shown.mp (mem_closest.mp hp).1
  refine ⟨p, hp, ?_, hview⟩
  apply Classical.byContradiction
  intro invalid
  exact accepted ⟨p, hprovider, hadmits, invalid⟩

theorem exists_of_mem_candidates_run {view : View σ α}
    (h : view ∈ (stage.run types context providers).candidates) :
    ∃ p ∈ providers, stage.admits p = true ∧ p.validate types.tree context = .valid ∧
      stage.view? p = some view := by
  obtain ⟨p, hp, hvalid, hview⟩ := exists_closest_of_mem_candidates_run _ _ _ _ h
  obtain ⟨hprovider, hadmits, -⟩ := mem_shown.mp (mem_closest.mp hp).1
  exact ⟨p, hprovider, hadmits, hvalid, hview⟩

end Stage

end Provision
