import Provision.Proofs.TypeTree.Chain
import Provision.Rank

/-! # The order of ranks -/

namespace Provision

/-! ## Context distances -/

namespace ContextDistance

theorem not_before_self (a : ContextDistance) : a.before a = false := by
  cases a <;> simp [before]

theorem before_trans {a b c : ContextDistance} (hab : a.before b = true)
    (hbc : b.before c = true) : a.before c = true := by
  cases a <;> cases b <;> cases c <;> simp [before] at * <;> omega

theorem before_trichotomy (a b : ContextDistance) :
    a.before b = true ∨ a = b ∨ b.before a = true := by
  cases a <;> cases b <;> simp [before] <;> omega

section

variable {t : TypeTree} {requested candidate : TypeId} {steps : Nat}

theorem between_eq_above_iff :
    between t requested candidate = .above steps ↔ t.distance? candidate requested = some steps := by
  unfold between
  cases t.distance? candidate requested with
  | some steps => simp
  | none => cases t.distance? requested candidate <;> simp

theorem between_eq_below_iff :
    between t requested candidate = .below steps ↔
      t.distance? candidate requested = none ∧ t.distance? requested candidate = some steps := by
  unfold between
  cases t.distance? candidate requested with
  | some steps => simp
  | none => cases t.distance? requested candidate <;> simp

theorem pos_of_between_eq_below (h : between t requested candidate = .below steps) :
    0 < steps := by
  obtain ⟨hnone, hsteps⟩ := between_eq_below_iff.mp h
  apply Nat.pos_of_ne_zero
  rintro rfl
  obtain ⟨known, rfl⟩ := (TypeTree.distance?_eq_zero_iff _ _ _).mp hsteps
  simp [hsteps] at hnone

theorem between_eq_unrelated_iff :
    between t requested candidate = .unrelated ↔ t.related candidate requested = false := by
  unfold between TypeTree.related TypeTree.distanceBetween?
  cases t.distance? candidate requested with
  | some steps => simp
  | none => cases t.distance? requested candidate <;> simp

theorem above_or_below_of_related (h : t.related candidate requested = true) :
    t.subsumes candidate requested = true ∨
      ∃ steps, 0 < steps ∧ between t requested candidate = .below steps := by
  cases hplace : between t requested candidate with
  | above steps => exact .inl (Option.isSome_iff_exists.mpr ⟨_, between_eq_above_iff.mp hplace⟩)
  | below steps => exact .inr ⟨steps, pos_of_between_eq_below hplace, rfl⟩
  | unrelated =>
      rw [between_eq_unrelated_iff.mp hplace] at h
      exact absurd h Bool.false_ne_true

end

section

variable {t : TypeTree} {context narrower a b : TypeId}

theorem eq_of_between_eq (above : t.subsumes a context = true)
    (h : between t context a = between t context b) : a = b := by
  obtain ⟨n, hn⟩ := Option.isSome_iff_exists.mp above
  have hb := between_eq_above_iff.mp (h.symm.trans (between_eq_above_iff.mpr hn))
  exact TypeTree.distance?_inj hn hb

theorem subsumes_of_not_before (ha : t.subsumes a context = true)
    (hb : t.subsumes b context = true)
    (h : (between t context a).before (between t context b) = false) :
    t.subsumes a b = true := by
  obtain ⟨m, hm⟩ := Option.isSome_iff_exists.mp ha
  obtain ⟨n, hn⟩ := Option.isSome_iff_exists.mp hb
  rw [between_eq_above_iff.mpr hm, between_eq_above_iff.mpr hn] at h
  have hle : n ≤ m := by simpa [before] using h
  simp [TypeTree.subsumes, TypeTree.distance?_of_le hm hn hle]

/-- Types above a context compare alike from every narrower one. -/
theorem before_of_narrower (narrows : t.subsumes context narrower = true)
    (ha : t.subsumes a context = true) (hb : t.subsumes b context = true) :
    (between t narrower a).before (between t narrower b) =
      (between t context a).before (between t context b) := by
  obtain ⟨n, hn⟩ := Option.isSome_iff_exists.mp narrows
  obtain ⟨k, hk⟩ := Option.isSome_iff_exists.mp ha
  obtain ⟨l, hl⟩ := Option.isSome_iff_exists.mp hb
  have hnk := (TypeTree.distance?_add_iff hn a k).mpr hk
  have hnl := (TypeTree.distance?_add_iff hn b l).mpr hl
  rw [between_eq_above_iff.mpr hnk, between_eq_above_iff.mpr hnl, between_eq_above_iff.mpr hk,
    between_eq_above_iff.mpr hl]
  simp [before]

end

end ContextDistance

/-! ## Ranks -/

namespace Rank

theorem before_iff (a b : Rank) :
    a.before b = true ↔
      a.context.before b.context = true ∨ a.context = b.context ∧ a.value < b.value := by
  simp [before]

theorem not_before_self (a : Rank) : a.before a = false := by
  simp [before, ContextDistance.not_before_self]

theorem before_trans {a b c : Rank} (hab : a.before b = true) (hbc : b.before c = true) :
    a.before c = true := by
  rw [before_iff] at *
  rcases hab with hab | ⟨hab, hv⟩
  · rcases hbc with hbc | ⟨hbc, -⟩
    · exact .inl (ContextDistance.before_trans hab hbc)
    · exact .inl (hbc ▸ hab)
  · rcases hbc with hbc | ⟨hbc, hw⟩
    · exact .inl (hab ▸ hbc)
    · exact .inr ⟨hab.trans hbc, Nat.lt_trans hv hw⟩

theorem before_asymm {a b : Rank} (h : a.before b = true) : b.before a = false := by
  rw [Bool.eq_false_iff]
  intro hba
  have haa := before_trans h hba
  simp [not_before_self] at haa

theorem eq_of_not_before {a b : Rank} (hab : a.before b = false) (hba : b.before a = false) :
    a = b := by
  have hcontext : a.context = b.context := by
    rcases ContextDistance.before_trichotomy a.context b.context with h | h | h
    · simp [before, h] at hab
    · exact h
    · simp [before, h] at hba
  have hvalue : a.value = b.value := by
    simp [before, hcontext, ContextDistance.not_before_self] at hab hba
    omega
  cases a
  cases b
  simp_all

theorem before_of_not_before {a b c : Rank} (hab : a.before b = true)
    (hcb : c.before b = false) : a.before c = true := by
  cases hac : a.before c with
  | true => rfl
  | false =>
      cases hca : c.before a with
      | true =>
          rw [before_trans hca hab] at hcb
          exact hcb.symm
      | false =>
          rw [← eq_of_not_before hac hca, hab] at hcb
          exact hcb.symm

theorem before_of_value_eq {a b : Rank} (h : a.value = b.value) :
    a.before b = a.context.before b.context := by
  simp [before, h]

theorem before_ofContext (t : TypeTree) (requested a b : TypeId) :
    (ofContext t requested a).before (ofContext t requested b) =
      (ContextDistance.between t requested a).before (.between t requested b) :=
  before_of_value_eq rfl

/-! ## The least rank -/

theorem not_before_default (a : Rank) : a.before {} = false := by
  cases a with
  | mk context value => cases context <;> simp [before, ContextDistance.before]

theorem ofContext_eq_default_iff (t : TypeTree) (requested candidate : TypeId) :
    ofContext t requested candidate = {} ↔ t.Known requested ∧ candidate = requested := by
  rw [← TypeTree.distance?_eq_zero_iff]
  unfold ofContext ContextDistance.between
  cases t.distance? candidate requested with
  | some steps => simp
  | none => cases t.distance? requested candidate <;> simp

end Rank

end Provision
