import Provision.Proofs.TypeTree.Order
import Provision.TypeSystem

/-! # The choice of a conversion

Where not every value of the source is one of the target, a registered conversion is chosen. It is
for the source's type or one above it, and leads to the target's or one below it. -/

namespace Provision

variable {σ α : Type}

theorem Value.isA_of_subsumes {v : Value α} {t : TypeTree} {sup sub : TypeId}
    (h : v.isA t sub = true) (hsup : t.subsumes sup sub = true) : v.isA t sup = true :=
  TypeTree.subsumes_trans hsup h

namespace Converters

/-! ## Candidates -/

theorem Candidate.mem_of_first? {candidates : List (Candidate σ α)} {best : Candidate σ α}
    (h : first? candidates = some best) : best ∈ candidates := by
  induction candidates generalizing best with
  | nil => simp [first?] at h
  | cons c rest ih =>
      rw [first?] at h
      cases hrest : first? rest with
      | none =>
          simp only [hrest, Option.some.injEq] at h
          simp [h]
      | some d =>
          simp only [hrest] at h
          split at h
          · obtain rfl := Option.some.inj h
            exact List.mem_cons_of_mem c (ih hrest)
          · obtain rfl := Option.some.inj h
            exact List.mem_cons_self

theorem mem_candidates_iff {c : Converters σ α} {t : TypeTree} {source target : TypeId}
    {candidate : Candidate σ α} :
    candidate ∈ c.candidates t source target ↔
      ((source, candidate.target), candidate.converter) ∈ c.entries ∧
        t.distance? target candidate.target = some candidate.steps := by
  rw [candidates, List.mem_filterMap]
  constructor
  · rintro ⟨⟨⟨s, d⟩, f⟩, hentry, hcandidate⟩
    dsimp only at hcandidate
    split at hcandidate
    · rename_i hs
      obtain ⟨steps, hsteps, rfl⟩ := Option.map_eq_some_iff.mp hcandidate
      exact ⟨hs ▸ hentry, hsteps⟩
    · simp at hcandidate
  · rintro ⟨hentry, hsteps⟩
    exact ⟨_, hentry, by simp [hsteps]⟩

/-! ## The chosen entry -/

/-- The registered conversion that leads from `source` to `target`, with the pair of types that it
was given for. -/
def choice? (c : Converters σ α) (t : TypeTree) (source target : TypeId) :
    Option ((TypeId × TypeId) × Converter σ α) :=
  (t.ancestors source).findSome? fun above =>
    (Candidate.first? (c.candidates t above target)).map fun best =>
      ((above, best.target), best.converter)

theorem find?_eq (c : Converters σ α) (t : TypeTree) (source target : TypeId) :
    c.find? t source target =
      if t.subsumes target source then some .identity
      else (c.choice? t source target).map (·.2) := by
  unfold find? choice?
  rw [List.map_findSome?]
  simp [Function.comp_def]

/-- What is chosen is registered, for a type above the source and for one below the target. -/
theorem choice?_eq_some {c : Converters σ α} {t : TypeTree} {source target : TypeId}
    {entry : (TypeId × TypeId) × Converter σ α} (h : c.choice? t source target = some entry) :
    entry ∈ c.entries ∧ t.subsumes entry.1.1 source = true ∧
      t.subsumes target entry.1.2 = true := by
  obtain ⟨above, habove, hfirst⟩ := List.exists_of_findSome?_eq_some h
  obtain ⟨best, hbest, rfl⟩ := Option.map_eq_some_iff.mp hfirst
  obtain ⟨hentry, hsteps⟩ := mem_candidates_iff.mp (Candidate.mem_of_first? hbest)
  refine ⟨hentry, (TypeTree.subsumes_iff_mem_ancestors t above source).mpr habove, ?_⟩
  simp [TypeTree.subsumes, hsteps]

end Converters

end Provision
