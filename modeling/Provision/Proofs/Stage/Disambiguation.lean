import Provision.Stage

/-! # Items with identities

One test of each item alone decides which of several are kept: those that pass it, or all of them if
none does. So items stay in their order, and which are kept does not depend on it. -/

namespace Provision

variable {ι κ : Type} [BEq κ] {identity : ι → Option κ} {requested : Option κ}
  {items others : List ι}

/-- Whether an item carries the requested identity or none. -/
def fitsIdentity (identity : ι → Option κ) (requested : Option κ) (a : ι) : Bool :=
  (identity a).all fun id => requested == some id

/-- Of several items, some carry the requested identity or none, and others another one. -/
def Divided (identity : ι → Option κ) (requested : Option κ) (items : List ι) : Prop :=
  2 ≤ items.length ∧ (∃ a ∈ items, fitsIdentity identity requested a = true) ∧
    ∃ b ∈ items, fitsIdentity identity requested b = false

theorem fitsIdentity_iff {a : ι} :
    fitsIdentity identity requested a = true ↔
      ∀ id, identity a = some id → (requested == some id) = true := by
  cases h : identity a <;> simp [fitsIdentity, h]

/-- What is kept, with short lists as no case of their own. -/
theorem disambiguate_eq (identity : ι → Option κ) (requested : Option κ) (items : List ι) :
    disambiguate identity requested items =
      if items.any (fitsIdentity identity requested) = true then
        items.filter (fitsIdentity identity requested)
      else items := by
  have of_test (test : ι → Bool) (htest : ∀ a, test a = fitsIdentity identity requested a) :
      (if items.length ≤ 1 then items
        else if (items.filter test).isEmpty = true then items else items.filter test) =
      if items.any (fitsIdentity identity requested) = true then
        items.filter (fitsIdentity identity requested)
      else items := by
    obtain rfl : test = fitsIdentity identity requested := funext htest
    have hempty : (items.filter (fitsIdentity identity requested)).isEmpty = true ↔
        ¬ items.any (fitsIdentity identity requested) = true := by simp
    match items, hempty with
    | [], _ => rfl
    | [a], _ => cases h : fitsIdentity identity requested a <;> simp [h]
    | a :: b :: rest, hempty =>
        rw [if_neg (by simp : ¬(a :: b :: rest).length ≤ 1)]
        simp only [hempty, ite_not]
  refine of_test _ fun a => ?_
  cases h : identity a <;> simp [fitsIdentity, h]

theorem disambiguate_of_fitting (h : ∃ a ∈ items, fitsIdentity identity requested a = true) :
    disambiguate identity requested items = items.filter (fitsIdentity identity requested) := by
  rw [disambiguate_eq, if_pos (List.any_eq_true.mpr h)]

theorem disambiguate_of_none_fitting
    (h : ¬∃ a ∈ items, fitsIdentity identity requested a = true) :
    disambiguate identity requested items = items := by
  rw [disambiguate_eq, if_neg (mt List.any_eq_true.mp h)]

/-! ## What is kept -/

theorem disambiguate_sublist (identity : ι → Option κ) (requested : Option κ) (items : List ι) :
    (disambiguate identity requested items).Sublist items := by
  rw [disambiguate_eq]
  split
  · exact List.filter_sublist
  · exact .refl items

theorem mem_of_mem_disambiguate {a : ι} (h : a ∈ disambiguate identity requested items) :
    a ∈ items :=
  (disambiguate_sublist identity requested items).subset h

theorem disambiguate_eq_nil_iff : disambiguate identity requested items = [] ↔ items = [] := by
  constructor
  · intro h
    by_cases hfitting : ∃ a ∈ items, fitsIdentity identity requested a = true
    · obtain ⟨a, ha, hfits⟩ := hfitting
      rw [disambiguate_of_fitting ⟨a, ha, hfits⟩] at h
      exact absurd hfits (List.filter_eq_nil_iff.mp h a ha)
    · rwa [disambiguate_of_none_fitting hfitting] at h
  · rintro rfl
    rfl

theorem disambiguate_eq_self
    (h : ∀ a ∈ items, ∀ id, identity a = some id → (requested == some id) = true) :
    disambiguate identity requested items = items := by
  rw [disambiguate_eq]
  split
  · exact List.filter_eq_self.mpr fun a ha => fitsIdentity_iff.mpr (h a ha)
  · rfl

theorem two_le_length_of_apart {test : ι → Bool} (ha : ∃ a ∈ items, test a = true)
    (hb : ∃ b ∈ items, test b = false) : 2 ≤ items.length := by
  obtain ⟨a, ha, hpasses⟩ := ha
  obtain ⟨b, hb, hfails⟩ := hb
  match items with
  | [] => cases ha
  | [only] =>
      obtain rfl := List.mem_singleton.mp ha
      obtain rfl := List.mem_singleton.mp hb
      cases hpasses.symm.trans hfails
  | _ :: _ :: _ => simp

theorem disambiguate_eq_self_iff :
    disambiguate identity requested items = items ↔ ¬Divided identity requested items := by
  constructor
  · rintro h ⟨-, hfitting, b, hb, hother⟩
    rw [disambiguate_of_fitting hfitting] at h
    rw [List.filter_eq_self.mp h b hb] at hother
    cases hother
  · intro h
    by_cases hfitting : ∃ a ∈ items, fitsIdentity identity requested a = true
    · apply disambiguate_eq_self
      intro b hb
      rw [← fitsIdentity_iff, ← Bool.not_eq_false]
      intro hother
      exact h ⟨two_le_length_of_apart hfitting ⟨b, hb, hother⟩, hfitting, b, hb, hother⟩
    · exact disambiguate_of_none_fitting hfitting

theorem disambiguate_idem (identity : ι → Option κ) (requested : Option κ) (items : List ι) :
    disambiguate identity requested (disambiguate identity requested items) =
      disambiguate identity requested items := by
  by_cases hfitting : ∃ a ∈ items, fitsIdentity identity requested a = true
  · apply disambiguate_eq_self
    intro a ha
    rw [disambiguate_of_fitting hfitting] at ha
    exact fitsIdentity_iff.mp (List.mem_filter.mp ha).2
  · rw [disambiguate_of_none_fitting hfitting, disambiguate_of_none_fitting hfitting]

/-! ## Items in another order -/

/-- The test that decides is the same for items in any order. -/
theorem disambiguate_of_perm (h : others.Perm items) :
    disambiguate identity requested others = others.filter fun a =>
      fitsIdentity identity requested a || !items.any (fitsIdentity identity requested) := by
  rw [disambiguate_eq, h.any_eq]
  cases items.any (fitsIdentity identity requested) with
  | true => simp
  | false => exact (List.filter_eq_self.mpr fun a _ => Bool.or_true _).symm

theorem disambiguate_perm (h : items.Perm others) :
    (disambiguate identity requested items).Perm (disambiguate identity requested others) := by
  rw [disambiguate_of_perm h, disambiguate_of_perm (.refl others)]
  exact h.filter _

end Provision
