import Provision.TypeTree

/-! # The order of types -/

namespace Provision.TypeTree

/-! ## Ancestors -/

theorem ancestors_eq_cons {t : TypeTree} {id : TypeId} (h : t.Known id) :
    ∃ above, t.ancestors id = id :: above := by
  rw [ancestors, if_pos h]
  split
  · exact ⟨_, rfl⟩
  · exact ⟨[], rfl⟩

theorem ancestors_eq_of_parent {t : TypeTree} {id p : TypeId} (known : t.Known id)
    (hp : t.parent? id = some p) : t.ancestors id = id :: t.ancestors p := by
  rw [ancestors, if_pos known]
  split
  · rename_i q hq
    obtain rfl := Option.some.inj (hp.symm.trans hq)
    rfl
  · rename_i hnone
    simp [hp] at hnone

theorem ancestors_eq_of_no_parent {t : TypeTree} {id : TypeId} (known : t.Known id)
    (hp : t.parent? id = none) : t.ancestors id = [id] := by
  rw [ancestors, if_pos known]
  split
  · rename_i q hq
    simp [hp] at hq
  · rfl

theorem mem_ancestors_self {t : TypeTree} {id : TypeId} (h : t.Known id) :
    id ∈ t.ancestors id := by
  obtain ⟨above, habove⟩ := ancestors_eq_cons h
  simp [habove]

theorem known_of_mem_ancestors {t : TypeTree} {a id : TypeId} (h : a ∈ t.ancestors id) :
    t.Known a ∧ t.Known id := by
  fun_induction ancestors t id with
  | case1 id known p hp ih =>
      rcases List.mem_cons.mp h with rfl | h
      · exact ⟨known, known⟩
      · exact ⟨(ih h).1, known⟩
  | case2 id known hp =>
      rw [List.mem_singleton] at h
      exact ⟨h ▸ known, known⟩
  | case3 id unknown => simp at h

theorem mem_ancestors_trans {t : TypeTree} {a b id : TypeId} (ha : a ∈ t.ancestors b)
    (hb : b ∈ t.ancestors id) : a ∈ t.ancestors id := by
  fun_induction ancestors t id with
  | case1 id known p hp ih =>
      rcases List.mem_cons.mp hb with rfl | hb
      · rwa [ancestors_eq_of_parent known hp] at ha
      · exact List.mem_cons_of_mem id (ih hb)
  | case2 id known hp =>
      obtain rfl := List.mem_singleton.mp hb
      rwa [ancestors_eq_of_no_parent known hp] at ha
  | case3 id unknown => simp at hb

/-! ## Subsumption -/

theorem subsumes_iff_mem_ancestors (t : TypeTree) (sup sub : TypeId) :
    t.subsumes sup sub = true ↔ sup ∈ t.ancestors sub := by
  rw [subsumes, distance?, List.isSome_idxOf?]

theorem subsumes_self {t : TypeTree} {id : TypeId} (h : t.Known id) : t.subsumes id id = true :=
  (subsumes_iff_mem_ancestors t id id).mpr (mem_ancestors_self h)

theorem subsumes_trans {t : TypeTree} {a b c : TypeId} (hab : t.subsumes a b = true)
    (hbc : t.subsumes b c = true) : t.subsumes a c = true := by
  rw [subsumes_iff_mem_ancestors] at *
  exact mem_ancestors_trans hab hbc

theorem known_of_subsumes {t : TypeTree} {sup sub : TypeId} (h : t.subsumes sup sub = true) :
    t.Known sup ∧ t.Known sub :=
  known_of_mem_ancestors ((subsumes_iff_mem_ancestors t sup sub).mp h)

theorem related_iff (t : TypeTree) (a b : TypeId) :
    t.related a b = true ↔ t.subsumes a b = true ∨ t.subsumes b a = true := by
  simp only [related, distanceBetween?, subsumes]
  cases t.distance? a b <;> simp

theorem related_eq_false_iff (t : TypeTree) (a b : TypeId) :
    t.related a b = false ↔ t.subsumes a b = false ∧ t.subsumes b a = false := by
  rw [← Bool.not_eq_true, related_iff, not_or, Bool.not_eq_true, Bool.not_eq_true]

theorem known_of_related {t : TypeTree} {a b : TypeId} (h : t.related a b = true) :
    t.Known a ∧ t.Known b := by
  rcases (related_iff t a b).mp h with h | h
  · exact known_of_subsumes h
  · exact (known_of_subsumes h).symm

/-! ## Distance -/

theorem distance?_eq_zero_iff (t : TypeTree) (sup sub : TypeId) :
    t.distance? sup sub = some 0 ↔ t.Known sub ∧ sup = sub := by
  by_cases known : t.Known sub
  · obtain ⟨above, habove⟩ := ancestors_eq_cons known
    rw [distance?, habove, List.idxOf?_cons]
    by_cases hsub : sub = sup
    · simp [hsub, hsub ▸ known]
    · simp [hsub, Ne.symm hsub]
  · have hnone : t.ancestors sub = [] := by rw [ancestors, if_neg known]
    simp [distance?, hnone, known]

end Provision.TypeTree
