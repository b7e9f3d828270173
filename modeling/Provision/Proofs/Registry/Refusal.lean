import Provision.Proofs.Registry.Answer
import Provision.Proofs.Stage.Reduction

/-! # How a search is refused

The first stage of a plan that finds anything or meets an objection decides. An objection there
refuses the whole search, and nothing later is looked at. -/

namespace Provision

variable {σ α : Type}

namespace Registry

/-! ## Plans that are refused -/

/-- A plan comes to a stage that meets an objection, before any that does or that finds anything.
Whether the objecting provider would have been the closest does not matter. -/
structure Poisoned (r : Registry σ α) (request : Request) (passed : List (Time × Stage σ α))
    (tried : Time × Stage σ α) : Prop where
  planned : passed ++ [tried] <+: request.plan r.types
  undecided : ∀ earlier ∈ passed,
    ¬ earlier.2.Objects r.types request.context (r.bucket earlier.1) ∧
      ¬ earlier.2.Finds (r.bucket earlier.1)
  objection : tried.2.Objects r.types request.context (r.bucket tried.1)

variable {r : Registry σ α} {request : Request} {passed : List (Time × Stage σ α)}
  {tried : Time × Stage σ α}

theorem isConclusive_outcome_iff :
    (r.outcome request.context tried).isConclusive = true ↔
      tried.2.Objects r.types request.context (r.bucket tried.1) ∨
        tried.2.Finds (r.bucket tried.1) :=
  Stage.isConclusive_run_iff _ _ _ _

theorem Poisoned.reaches (h : r.Poisoned request passed tried) :
    r.Reaches request passed tried := by
  refine ⟨h.planned, ?_⟩
  intro earlier hearlier
  obtain ⟨hobjects, hfinds⟩ := h.undecided earlier hearlier
  rw [Bool.eq_false_iff, ne_eq, isConclusive_outcome_iff]
  exact not_or.mpr ⟨hobjects, hfinds⟩

theorem Poisoned.answer_eq (h : r.Poisoned request passed tried) :
    r.answer request = r.outcome request.context tried :=
  h.reaches.answer_eq (isConclusive_outcome_iff.mpr (.inl h.objection))

theorem isRefused_answer_iff :
    (r.answer request).isRefused = true ↔ ∃ passed tried, r.Poisoned request passed tried := by
  constructor
  · intro h
    rw [answer_eq_find] at h
    cases hfind : (request.plan r.types).find? fun tried =>
        (r.outcome request.context tried).isConclusive with
    | none => simp [hfind, Resolution.empty, Resolution.isRefused] at h
    | some tried =>
        rw [hfind] at h
        obtain ⟨-, passed, later, hplan, hpassed⟩ := List.find?_eq_some_iff_append.mp hfind
        refine ⟨passed, tried, ⟨later, by simp [hplan]⟩, ?_,
          (Stage.isRefused_run_iff _ _ _ _).mp h⟩
        intro earlier hearlier
        have hinconclusive := hpassed earlier hearlier
        rw [Bool.not_eq_true', Bool.eq_false_iff, ne_eq, isConclusive_outcome_iff] at hinconclusive
        exact not_or.mp hinconclusive
  · rintro ⟨passed, tried, h⟩
    rw [h.answer_eq]
    exact (Stage.isRefused_run_iff _ _ _ _).mpr h.objection

/-- The refusal is that of the first provider that objects. -/
theorem Poisoned.exists_firstObjector (h : r.Poisoned request passed tried) :
    ∃ p, tried.2.FirstObjector r.types request.context (r.bucket tried.1) p ∧
      r.answer request = .refused (p.validate r.types.tree request.context).message? := by
  rw [h.answer_eq]
  exact Stage.exists_firstObjector_of_objects _ _ _ _ h.objection

theorem Poisoned.of_prefix (h : r.Poisoned request passed tried) {u : Registry σ α}
    {asked : Request} (types : u.types = r.types) (context : asked.context = request.context)
    (planned : passed ++ [tried] <+: asked.plan u.types)
    (same : ∀ consulted ∈ passed ++ [tried], u.bucket consulted.1 = r.bucket consulted.1) :
    u.Poisoned asked passed tried := by
  refine ⟨planned, ?_, ?_⟩
  · intro earlier hearlier
    rw [types, context, same earlier (List.mem_append_left _ hearlier)]
    exact h.undecided earlier hearlier
  · rw [types, context, same tried (by simp)]
    exact h.objection

/-! ## Refusals -/

/-- A search is refused exactly if its plan comes to an objection before anything is found. It then
yields nothing but the message of the first provider that objects, if that excludes the context.
The answer stays the same whatever the rest of the plan is, over whatever providers: none of it is
looked at. -/
theorem refusal_exact (reachable : r.Reachable) (request : Request) :
    ((r.resolve request).1.isRefused = true ↔ ∃ passed tried, r.Poisoned request passed tried) ∧
      ∀ passed tried, r.Poisoned request passed tried →
        (∃ p, tried.2.FirstObjector r.types request.context (r.bucket tried.1) p ∧
          (r.resolve request).1.candidates = [] ∧
          (r.resolve request).1.message? =
            if p.excluded.any fun e => r.types.tree.subsumes e request.context then
              p.exclusionMessage
            else none) ∧
        ∀ (u : Registry σ α) (asked : Request), u.Reachable → u.types = r.types →
          asked.context = request.context → passed ++ [tried] <+: asked.plan u.types →
          (∀ consulted ∈ passed ++ [tried], u.bucket consulted.1 = r.bucket consulted.1) →
          (u.resolve asked).1 = (r.resolve request).1 := by
  rw [reachable.resolve_eq]
  refine ⟨isRefused_answer_iff, ?_⟩
  intro passed tried poisoned
  constructor
  · obtain ⟨p, hp, hrefused⟩ := poisoned.exists_firstObjector
    refine ⟨p, hp, ?_, ?_⟩
    · rw [hrefused]
      rfl
    · rw [hrefused, ← p.message?_validate]
      rfl
  · intro u asked hu types context planned same
    have hasked := poisoned.of_prefix types context planned same
    rw [hu.resolve_eq, hasked.answer_eq, poisoned.answer_eq]
    simp only [outcome]
    rw [types, context, same tried (by simp)]

/-- A provider that is farther than another and excludes arrays refuses the search for arrays of
the past that falls back to it. -/
theorem array_refusal :
    let near := { (default : Provider Unit Unit) with contextType := arrays, valueType := arrays }
    let far := { (default : Provider Unit Unit) with
      valueType := arrays, excluded := [arrays], exclusionMessage := some "not here" }
    let r := ofArrays [near, far]
    let request : Request := ⟨arrays, .type arrays, .past, .default⟩
    r.Reachable ∧ (r.resolve request).1.message? = some "not here" ∧
      ∃ passed tried, r.Poisoned request passed tried := by
  intro near far r request
  have reachable : r.Reachable := ofArrays_reachable _
  have hrefused : (r.resolve request).1.isRefused = true := by decide +kernel
  have hmessage : (r.resolve request).1.message? = some "not here" := by decide +kernel
  exact ⟨reachable, hmessage, (refusal_exact reachable request).1.mp hrefused⟩

end Registry

end Provision
