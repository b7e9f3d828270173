import Provision.Proofs.Rank
import Provision.Stage

/-! # What one stage finds

A stage refuses by the first provider that it admits and that does not accept the context. Where
there is none, it yields the views of the closest providers that it can show, in their order. -/

namespace Provision

/-- The message of a refusal. A provider that judges the context itself gives none. -/
def Validation.message? : Validation → Option String
  | .excluded _ message => message
  | _ => none

/-- The items of least rank, in order. -/
def closest {ι : Type} (rank : ι → Rank) (items : List ι) : List ι :=
  items.filter fun a => items.all fun b => !(rank b).before (rank a)

theorem mem_closest {ι : Type} {rank : ι → Rank} {items : List ι} {a : ι} :
    a ∈ closest rank items ↔ a ∈ items ∧ ∀ b ∈ items, (rank b).before (rank a) = false := by
  simp [closest]

theorem rank_eq_of_mem_closest {ι : Type} {rank : ι → Rank} {items : List ι} {a b : ι}
    (ha : a ∈ closest rank items) (hb : b ∈ closest rank items) : rank a = rank b := by
  rw [mem_closest] at ha hb
  exact Rank.eq_of_not_before (hb.2 a ha.1) (ha.2 b hb.1)

theorem closest_congr {ι : Type} {rank other : ι → Rank} {items : List ι}
    (h : ∀ a ∈ items, ∀ b ∈ items, (rank a).before (rank b) = (other a).before (other b)) :
    closest rank items = closest other items := by
  apply List.filter_congr
  intro a ha
  rw [Bool.eq_iff_iff, List.all_eq_true, List.all_eq_true]
  exact forall₂_congr fun b hb => by rw [h b hb a ha]

theorem closest_eq_filter {ι : Type} {rank : ι → Rank} {items : List ι} {least : Rank}
    (attained : ∃ a ∈ items, rank a = least)
    (minimal : ∀ a ∈ items, (rank a).before least = false) :
    closest rank items = items.filter fun a => rank a == least := by
  apply List.filter_congr
  intro a ha
  rw [Bool.eq_iff_iff, beq_iff_eq, List.all_eq_true]
  constructor
  · intro h
    obtain ⟨b, hb, rfl⟩ := attained
    have hba : (rank b).before (rank a) = false := by simpa using h b hb
    exact Rank.eq_of_not_before (minimal a ha) hba
  · rintro rfl b hb
    simp [minimal b hb]

namespace Stage

variable {σ α : Type} (stage : Stage σ α) (t : TypeTree) (context : TypeId)

/-- The first provider that is admitted and does not accept the context. -/
def objector? (providers : List (Provider σ α)) : Option (Provider σ α) :=
  providers.find? fun p => stage.admits p && !(p.validate t context).isValid

/-- The providers that are admitted and can be shown. -/
def shown (providers : List (Provider σ α)) : List (Provider σ α) :=
  providers.filter fun p => stage.admits p && (stage.view? p).isSome

theorem mem_shown {stage : Stage σ α} {providers : List (Provider σ α)} {p : Provider σ α} :
    p ∈ stage.shown providers ↔
      p ∈ providers ∧ stage.admits p = true ∧ (stage.view? p).isSome = true := by
  simp [shown]

/-- The views of the closest among providers. -/
def closestViews (providers : List (Provider σ α)) : List (View σ α) :=
  (closest stage.rank providers).filterMap stage.view?

/-! ## Refusals -/

theorem scan_of_objector {providers : List (Provider σ α)} {p : Provider σ α}
    (h : stage.objector? t context providers = some p) (best : Option Rank)
    (views : List (View σ α)) :
    stage.scan t context best views providers = .error (p.validate t context).message? := by
  induction providers generalizing best views with
  | nil => simp [objector?] at h
  | cons q rest ih =>
      rw [objector?, List.find?_cons] at h
      by_cases admitted : stage.admits q = true
      · cases judgement : q.validate t context with
        | excluded e message =>
            simp [admitted, judgement, Validation.isValid] at h
            subst h
            simp [scan, admitted, judgement, Validation.message?]
        | rejected =>
            simp [admitted, judgement, Validation.isValid] at h
            subst h
            simp [scan, admitted, judgement, Validation.message?]
        | valid =>
            simp [admitted, judgement, Validation.isValid] at h
            simp only [scan, admitted, judgement, if_true]
            split
            · exact ih h best views
            · split
              · exact ih h best views
              · split
                · exact ih h best _
                · exact ih h _ _
      · simp [admitted] at h
        simp only [scan, admitted]
        exact ih h best views

/-! ## Findings -/

/-- What a scan holds once it has shown some providers: the least of their ranks, and the views of
those that have it, in order. -/
inductive Holds : List (Provider σ α) → Option Rank → List (View σ α) → Prop
  | nothing : Holds [] none []
  | least {seen : List (Provider σ α)} {best : Rank}
      (attained : ∃ p ∈ seen, stage.rank p = best)
      (minimal : ∀ p ∈ seen, (stage.rank p).before best = false) :
      Holds seen (some best)
        ((seen.filter fun p => stage.rank p == best).filterMap stage.view?)

variable {stage} {seen : List (Provider σ α)} {best : Rank} {views : List (View σ α)}
  {p : Provider σ α} {view : View σ α}

theorem Holds.views_eq {best : Option Rank} (h : stage.Holds seen best views) :
    views = stage.closestViews seen := by
  cases h with
  | nothing => rfl
  | least attained minimal => rw [closestViews, closest_eq_filter attained minimal]

theorem Holds.append_farther (h : stage.Holds seen (some best) views)
    (hp : best.before (stage.rank p) = true) :
    stage.Holds (seen ++ [p]) (some best) views := by
  cases h with
  | least attained minimal =>
      have hne : (stage.rank p == best) = false := by
        rw [beq_eq_false_iff_ne]
        rintro rfl
        simp [Rank.not_before_self] at hp
      have hsame : (seen.filter fun q => stage.rank q == best) =
          (seen ++ [p]).filter fun q => stage.rank q == best := by
        simp [hne]
      rw [hsame]
      refine .least ?_ ?_
      · obtain ⟨q, hq, hrank⟩ := attained
        exact ⟨q, List.mem_append_left _ hq, hrank⟩
      · intro q hq
        rcases List.mem_append.mp hq with hq | hq
        · exact minimal q hq
        · rw [List.mem_singleton.mp hq]
          exact Rank.before_asymm hp

theorem Holds.append_tied (h : stage.Holds seen (some best) views) (hp : stage.rank p = best)
    (hview : stage.view? p = some view) :
    stage.Holds (seen ++ [p]) (some best) (views ++ [view]) := by
  cases h with
  | least attained minimal =>
      have hjoined : (seen.filter fun q => stage.rank q == best).filterMap stage.view? ++ [view] =
          ((seen ++ [p]).filter fun q => stage.rank q == best).filterMap stage.view? := by
        simp [hp, hview]
      rw [hjoined]
      refine .least ⟨p, by simp, hp⟩ ?_
      intro q hq
      rcases List.mem_append.mp hq with hq | hq
      · exact minimal q hq
      · rw [List.mem_singleton.mp hq, hp]
        exact Rank.not_before_self best

theorem Holds.append_closer {best : Option Rank} (h : stage.Holds seen best views)
    (hp : ∀ b, best = some b → (stage.rank p).before b = true)
    (hview : stage.view? p = some view) :
    stage.Holds (seen ++ [p]) (some (stage.rank p)) [view] := by
  have hfarther : ∀ q ∈ seen, (stage.rank p).before (stage.rank q) = true := by
    cases h with
    | nothing => simp
    | least attained minimal =>
        intro q hq
        exact Rank.before_of_not_before (hp _ rfl) (minimal q hq)
  have halone : [view] =
      ((seen ++ [p]).filter fun q => stage.rank q == stage.rank p).filterMap stage.view? := by
    have hnone : (seen.filter fun q => stage.rank q == stage.rank p) = [] := by
      rw [List.filter_eq_nil_iff]
      intro q hq heq
      have hbefore := hfarther q hq
      rw [beq_iff_eq.mp heq, Rank.not_before_self] at hbefore
      simp at hbefore
    simp [List.filter_append, hnone, hview]
  rw [halone]
  refine .least ⟨p, by simp, rfl⟩ ?_
  intro q hq
  rcases List.mem_append.mp hq with hq | hq
  · exact Rank.before_asymm (hfarther q hq)
  · rw [List.mem_singleton.mp hq]
    exact Rank.not_before_self _

/-- Where nobody objects, a scan goes on to the closest of what it has seen and what it can show. -/
theorem scan_of_no_objector {t : TypeTree} {context : TypeId} {providers : List (Provider σ α)}
    (h : stage.objector? t context providers = none) {best : Option Rank}
    (holds : stage.Holds seen best views) :
    stage.scan t context best views providers =
      .ok (stage.closestViews (seen ++ stage.shown providers)) := by
  induction providers generalizing seen best views with
  | nil => simp [scan, shown, holds.views_eq]
  | cons q rest ih =>
      have hrest : stage.objector? t context rest = none := by
        rw [objector?, List.find?_eq_none] at h ⊢
        intro p hp
        exact h p (List.mem_cons_of_mem q hp)
      by_cases admitted : stage.admits q = true
      · have accepted : q.validate t context = .valid := by
          rw [objector?, List.find?_eq_none] at h
          simpa [admitted, Validation.isValid] using h q List.mem_cons_self
        cases hview : stage.view? q with
        | none =>
            have hshown : stage.shown (q :: rest) = stage.shown rest := by
              simp [shown, hview]
            simp only [scan, admitted, accepted, hview, hshown, if_true]
            split
            · exact ih hrest holds
            · exact ih hrest holds
        | some view =>
            have hshown : stage.shown (q :: rest) = q :: stage.shown rest := by
              simp [shown, admitted, hview]
            have hseen : seen ++ q :: stage.shown rest = seen ++ [q] ++ stage.shown rest := by
              simp
            simp only [scan, admitted, accepted, hview, hshown, hseen, if_true]
            split
            · rename_i farther
              obtain ⟨b, rfl, hb⟩ := (Option.any_eq_true _ _).mp farther
              exact ih hrest (holds.append_farther hb)
            · rename_i near
              split
              · rename_i tied
                obtain rfl := beq_iff_eq.mp tied
                exact ih hrest (holds.append_tied rfl hview)
              · rename_i untied
                refine ih hrest (holds.append_closer ?_ hview)
                rintro b rfl
                have hb : b.before (stage.rank q) = false := by simpa using near
                have hne : b ≠ stage.rank q := by simpa using untied
                cases hq : (stage.rank q).before b with
                | true => rfl
                | false => exact absurd (Rank.eq_of_not_before hb hq) hne
      · have hshown : stage.shown (q :: rest) = stage.shown rest := by
          simp [shown, admitted]
        simp only [scan, admitted, hshown]
        exact ih hrest holds

end Stage

end Provision
