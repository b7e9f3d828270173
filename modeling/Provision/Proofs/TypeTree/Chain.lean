import Provision.Proofs.TypeTree.Order

/-! # The chain above a type

All that lies above a type lies on one chain. Steps add up along it, there is one type at each
distance, and of two types the closer one lies below the other. -/

namespace Provision.TypeTree

variable {t : TypeTree} {a b c : TypeId} {m n : Nat}

/-! ## Walks -/

theorem toNat_le_of_mem_ancestors (h : a ∈ t.ancestors b) : a.toNat ≤ b.toNat := by
  fun_induction ancestors t b with
  | case1 id known p hp ih =>
      have hparent := parent_toNat_lt hp
      rcases List.mem_cons.mp h with rfl | h
      · exact Nat.le_refl _
      · have habove := ih h
        omega
  | case2 id known hp =>
      obtain rfl := List.mem_singleton.mp h
      exact Nat.le_refl _
  | case3 id unknown => simp at h

theorem length_ancestors_le (t : TypeTree) (id : TypeId) :
    (t.ancestors id).length ≤ id.toNat + 1 := by
  fun_induction ancestors t id with
  | case1 id known p hp ih =>
      have hparent := parent_toNat_lt hp
      rw [List.length_cons]
      omega
  | case2 id known hp => simp
  | case3 id unknown => simp

theorem ancestors_nodup (t : TypeTree) (id : TypeId) : (t.ancestors id).Nodup := by
  fun_induction ancestors t id with
  | case1 id known p hp ih =>
      rw [List.nodup_cons]
      refine ⟨?_, ih⟩
      intro h
      have habove := toNat_le_of_mem_ancestors h
      have hparent := parent_toNat_lt hp
      omega
  | case2 id known hp => simp
  | case3 id unknown => simp

/-! ## Distance along the chain -/

theorem distance?_eq_some_iff (t : TypeTree) (sup sub : TypeId) (n : Nat) :
    t.distance? sup sub = some n ↔ (t.ancestors sub)[n]? = some sup := by
  rw [distance?, List.idxOf?_eq_some_iff, List.getElem?_eq_some_iff]
  constructor
  · rintro ⟨hlt, hn, -⟩
    exact ⟨hlt, hn⟩
  · rintro ⟨hlt, hn⟩
    refine ⟨hlt, hn, ?_⟩
    intro i hi heq
    have hplace : i = n := (List.getElem_inj (ancestors_nodup t sub)).mp (heq.trans hn.symm)
    omega

theorem distance?_inj (ha : t.distance? a c = some n) (hb : t.distance? b c = some n) : a = b := by
  rw [distance?_eq_some_iff] at ha hb
  exact Option.some.inj (ha.symm.trans hb)

theorem drop_ancestors (h : t.distance? a b = some n) :
    (t.ancestors b).drop n = t.ancestors a := by
  rw [distance?_eq_some_iff] at h
  fun_induction ancestors t b generalizing n with
  | case1 id known p hp ih =>
      cases n with
      | zero =>
          obtain rfl := Option.some.inj h
          exact (ancestors_eq_of_parent known hp).symm
      | succ n => exact ih h
  | case2 id known hp =>
      cases n with
      | zero =>
          obtain rfl := Option.some.inj h
          exact (ancestors_eq_of_no_parent known hp).symm
      | succ n => simp at h
  | case3 id unknown => simp at h

theorem distance?_add_iff (h : t.distance? b c = some n) (a : TypeId) (m : Nat) :
    t.distance? a c = some (n + m) ↔ t.distance? a b = some m := by
  rw [distance?_eq_some_iff, distance?_eq_some_iff, ← drop_ancestors h, List.getElem?_drop]

theorem distance?_of_le (ha : t.distance? a c = some m) (hb : t.distance? b c = some n)
    (h : n ≤ m) : t.distance? a b = some (m - n) := by
  rw [← distance?_add_iff hb, Nat.add_sub_cancel' h]
  exact ha

theorem related_of_above (ha : t.subsumes a c = true) (hb : t.subsumes b c = true) :
    t.subsumes a b = true ∨ t.subsumes b a = true := by
  obtain ⟨m, hm⟩ := Option.isSome_iff_exists.mp ha
  obtain ⟨n, hn⟩ := Option.isSome_iff_exists.mp hb
  rcases Nat.le_total n m with h | h
  · exact .inl (by simp [subsumes, distance?_of_le hm hn h])
  · exact .inr (by simp [subsumes, distance?_of_le hn hm h])

end Provision.TypeTree
