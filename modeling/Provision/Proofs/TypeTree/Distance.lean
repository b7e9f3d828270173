import Provision.Proofs.TypeTree.Chain
import Provision.Proofs.TypeTree.Run

/-! # Distance counts steps

The distance of two types is the number of steps along parents that lead from the one up to the
other. It is a distance in one direction alone, unless the types are the same. -/

namespace Provision.TypeTree

/-! ## Steps -/

/-- The type that so many steps along parents lead up to. -/
def up? (t : TypeTree) : Nat → TypeId → Option TypeId
  | 0, id => some id
  | n + 1, id => (t.parent? id).bind (t.up? n)

variable {t : TypeTree} {a b c : TypeId} {m n : Nat}

theorem getElem?_ancestors (known : t.Known c) (n : Nat) : (t.ancestors c)[n]? = t.up? n c := by
  fun_induction ancestors t c generalizing n with
  | case1 id known p hp ih =>
      cases n with
      | zero => rfl
      | succ n => simp [up?, hp, ih (known_of_parent? hp).2]
  | case2 id known hp =>
      cases n with
      | zero => rfl
      | succ n => simp [up?, hp]
  | case3 id unknown => contradiction

theorem distance?_eq_some_iff_up? (t : TypeTree) (a c : TypeId) (n : Nat) :
    t.distance? a c = some n ↔ t.Known c ∧ t.up? n c = some a := by
  rw [distance?_eq_some_iff]
  by_cases known : t.Known c
  · simp [known, getElem?_ancestors known]
  · have hnone : t.ancestors c = [] := by rw [ancestors, if_neg known]
    simp [hnone, known]

theorem toNat_add_le_of_up? (h : t.up? n c = some a) : a.toNat + n ≤ c.toNat := by
  induction n generalizing c with
  | zero =>
      obtain rfl := Option.some.inj h
      exact Nat.le_refl _
  | succ n ih =>
      obtain ⟨p, hp, hup⟩ := Option.bind_eq_some_iff.mp h
      have hparent := parent_toNat_lt hp
      have habove := ih hup
      omega

theorem up?_add (hm : t.up? m c = some b) : t.up? (m + n) c = t.up? n b := by
  induction m generalizing c with
  | zero =>
      obtain rfl := Option.some.inj hm
      rw [Nat.zero_add]
  | succ m ih =>
      obtain ⟨p, hp, hup⟩ := Option.bind_eq_some_iff.mp hm
      rw [Nat.succ_add_eq_add_succ, Nat.add_succ, up?, hp, Option.bind_some]
      exact ih hup

theorem steps_le_of_up? (hm : t.up? m c = some a) (hn : t.up? n c = some a) : n ≤ m := by
  by_contra hlt
  obtain ⟨k, rfl⟩ := Nat.exists_eq_add_of_lt (Nat.not_le.mp hlt)
  rw [Nat.add_assoc, up?_add hm] at hn
  have hback := toNat_add_le_of_up? hn
  omega

theorem up?_steps_inj (hm : t.up? m c = some a) (hn : t.up? n c = some a) : m = n :=
  Nat.le_antisymm (steps_le_of_up? hn hm) (steps_le_of_up? hm hn)

theorem distance?_lt (h : t.distance? a c = some n) : n < t.size := by
  obtain ⟨known, hup⟩ := (t.distance?_eq_some_iff_up? a c n).mp h
  have hnumber := toNat_add_le_of_up? hup
  simp only [Known] at known
  omega

theorem distanceBetween?_lt (h : t.distanceBetween? a b = some n) : n < t.size := by
  cases hab : t.distance? a b with
  | some m =>
      rw [distanceBetween?, hab] at h
      exact distance?_lt (hab.trans h)
  | none =>
      rw [distanceBetween?, hab] at h
      exact distance?_lt h

/-! ## Direction -/

theorem subsumes_antisymm (hab : t.subsumes a b = true) (hba : t.subsumes b a = true) : a = b := by
  rw [subsumes_iff_mem_ancestors] at hab hba
  apply TypeId.toNat_inj.mp
  exact Nat.le_antisymm (toNat_le_of_mem_ancestors hab) (toNat_le_of_mem_ancestors hba)

theorem distanceBetween?_comm (t : TypeTree) (a b : TypeId) :
    t.distanceBetween? a b = t.distanceBetween? b a := by
  cases hab : t.distance? a b with
  | none => cases hba : t.distance? b a <;> simp [distanceBetween?, hab, hba]
  | some m =>
      cases hba : t.distance? b a with
      | none => simp [distanceBetween?, hab, hba]
      | some n =>
          have hsub : t.subsumes a b = true := by simp [subsumes, hab]
          have hsup : t.subsumes b a = true := by simp [subsumes, hba]
          rw [subsumes_antisymm hsub hsup]

/-! ## The tree as a whole -/

/-- The distance of a type above a known one is the number of steps that lead there, which is the
only such number. Distances add up along a chain, and have one direction: they are defined both ways
only from a type to itself, so it makes no difference in which order two types are compared. All
that lies above one type is related. -/
theorem distance_counts_steps (t : TypeTree) :
    (∀ a c n, t.distance? a c = some n ↔ t.Known c ∧ t.up? n c = some a) ∧
    (∀ a c m n, t.up? m c = some a → t.up? n c = some a → m = n) ∧
    (∀ a b c, t.subsumes a b = true → t.subsumes b c = true →
      ∃ m n, t.distance? a b = some m ∧ t.distance? b c = some n ∧
        t.distance? a c = some (m + n)) ∧
    (∀ a b, (t.distance? a b).isSome = true → (t.distance? b a).isSome = true → a = b) ∧
    (∀ a b, t.distanceBetween? a b = t.distanceBetween? b a ∧ t.related a b = t.related b a) ∧
    ∀ a b c, t.subsumes a c = true → t.subsumes b c = true → t.related a b = true := by
  refine ⟨t.distance?_eq_some_iff_up?, fun _ _ _ _ => up?_steps_inj, ?_,
    fun _ _ => subsumes_antisymm, ?_, ?_⟩
  · intro a b c hab hbc
    obtain ⟨m, hm⟩ := Option.isSome_iff_exists.mp hab
    obtain ⟨n, hn⟩ := Option.isSome_iff_exists.mp hbc
    refine ⟨m, n, hm, hn, ?_⟩
    rw [Nat.add_comm, distance?_add_iff hn]
    exact hm
  · intro a b
    have hcomm := distanceBetween?_comm t a b
    exact ⟨hcomm, by rw [related, related, hcomm]⟩
  · intro a b c ha hb
    exact (related_iff t a b).mpr (related_of_above ha hb)

/-- The arrays of admins are below those of players, these below those of everything, and all of
them below the root. -/
theorem arrays_of_admins_three_below_root :
    let t := (players.step (.arrayOf admin)).1
    t.distance? .root (.ofNat 5) = some 3 ∧ t.up? 3 (.ofNat 5) = some .root ∧
      (∀ n, t.up? n (.ofNat 5) = some .root → 3 = n) ∧
      t.related (.ofNat 3) (.ofNat 4) = true ∧
      t.distanceBetween? (.ofNat 3) (.ofNat 5) = t.distanceBetween? (.ofNat 5) (.ofNat 3) := by
  intro t
  obtain ⟨hsteps, hunique, hadd, -, hcomm, hrelated⟩ := distance_counts_steps t
  have hobjects : t.subsumes (.ofNat 3) (.ofNat 5) = true := by decide +kernel
  have hplayers : t.subsumes (.ofNat 4) (.ofNat 5) = true := by decide +kernel
  obtain ⟨m, n, hm, hn, hmn⟩ := hadd .root (.ofNat 4) (.ofNat 5) (by decide +kernel) hplayers
  obtain rfl : 2 = m := Option.some.inj (Eq.trans (by decide +kernel) hm)
  obtain rfl : 1 = n := Option.some.inj (Eq.trans (by decide +kernel) hn)
  have hup := ((hsteps .root (.ofNat 5) 3).mp hmn).2
  exact ⟨hmn, hup, fun k => hunique .root (.ofNat 5) 3 k hup,
    hrelated _ _ _ hobjects hplayers, (hcomm _ _).1⟩

end Provision.TypeTree
