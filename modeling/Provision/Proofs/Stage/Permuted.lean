import Provision.Proofs.Stage.Outcome

/-! # Providers in another order

A stage finds the same among providers in any order, and is refused alike. The order of tied
candidates and the choice among several messages are all that can change. -/

namespace Provision

/-! ## Closest items -/

theorem closest_perm {ι : Type} {rank : ι → Rank} {items others : List ι}
    (h : items.Perm others) : (closest rank items).Perm (closest rank others) := by
  have hleast : (fun a => items.all fun b => !(rank b).before (rank a)) =
      fun a => others.all fun b => !(rank b).before (rank a) := by
    funext a
    exact h.all_eq
  unfold closest
  rw [hleast]
  exact h.filter _

variable {σ α : Type}

/-! ## Resolutions -/

namespace Resolution

/-- The same result, but for the order of candidates and the message of a refusal. -/
inductive Resembles : Resolution σ α → Resolution σ α → Prop
  | found {views others : List (View σ α)} (h : views.Perm others) :
      Resembles (.found views) (.found others)
  | refused (message other : Option String) : Resembles (.refused message) (.refused other)

namespace Resembles

variable {result other : Resolution σ α}

theorem isRefused_eq (h : result.Resembles other) : result.isRefused = other.isRefused := by
  cases h <;> rfl

theorem candidates_perm (h : result.Resembles other) :
    result.candidates.Perm other.candidates := by
  cases h with
  | found h => exact h
  | refused message other => exact .refl _

theorem isConclusive_eq (h : result.Resembles other) :
    result.isConclusive = other.isConclusive := by
  simp only [isConclusive, isSuccessful, isEmpty, h.isRefused_eq, h.candidates_perm.isEmpty_eq]

/-- A unique candidate is the same, and where there is none the reason is. -/
theorem unique_eq (h : result.Resembles other) : result.unique = other.unique := by
  cases h with
  | refused message other => rfl
  | @found views others h =>
      match views, others, h with
      | [], others, h => rw [h.nil_eq]
      | [view], others, h => rw [List.singleton_perm.mp h]
      | first :: second :: views, [], h => simp at h
      | first :: second :: views, [other], h => simp at h
      | first :: second :: views, third :: fourth :: others, h =>
          simp only [unique, h.length_eq]

end Resembles

end Resolution

namespace Stage

/-! ## Runs -/

variable {stage : Stage σ α} {types : TypeSystem σ α} {context : TypeId}
  {providers others : List (Provider σ α)}

theorem objects_iff_of_perm (h : providers.Perm others) :
    stage.Objects types context providers ↔ stage.Objects types context others := by
  simp only [Objects, h.mem_iff]

theorem finds_iff_of_perm (h : providers.Perm others) :
    stage.Finds providers ↔ stage.Finds others := by
  simp only [Finds, h.mem_iff]

theorem keep_perm {lex : Lexicon} {views others : List (View σ α)} (h : views.Perm others) :
    (stage.keep lex views).Perm (stage.keep lex others) := by
  unfold keep
  split
  · exact disambiguate_perm h
  · exact h

theorem closestViews_shown_perm (h : providers.Perm others) :
    (stage.closestViews (stage.shown providers)).Perm
      (stage.closestViews (stage.shown others)) :=
  (closest_perm (h.filter _)).filterMap _

theorem run_resembles_of_perm (h : providers.Perm others) :
    (stage.run types context providers).Resembles (stage.run types context others) := by
  by_cases objects : stage.Objects types context providers
  · have hleft := (isRefused_run_iff stage types context providers).mpr objects
    have hright := (isRefused_run_iff stage types context others).mpr
      ((objects_iff_of_perm h).mp objects)
    cases hrun : stage.run types context providers with
    | found views => simp [hrun, Resolution.isRefused] at hleft
    | refused message =>
        cases hother : stage.run types context others with
        | found views => simp [hother, Resolution.isRefused] at hright
        | refused other => exact .refused message other
  · rw [run_of_not_objects _ _ _ _ objects,
      run_of_not_objects _ _ _ _ fun hother => objects ((objects_iff_of_perm h).mpr hother)]
    exact .found (keep_perm (closestViews_shown_perm h))

end Stage

end Provision
