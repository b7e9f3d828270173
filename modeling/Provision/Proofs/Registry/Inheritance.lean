import Provision.Proofs.Registry.ExactPriority

/-! # Values of narrower contexts

What is provided in contexts of a type is provided in contexts of every narrower type too. A
provider for a type in between, or for the narrower type itself, is closer and takes its place. -/

namespace Provision

variable {σ α : Type}

namespace Stage

variable {types : TypeSystem σ α} {context narrower valueType : TypeId}
  {providers : List (Provider σ α)} {p q : Provider σ α}

/-! ## The closest of what the exact stage admits -/

theorem contextType_eq_of_closestExact (hp : p ∈ closestExact types context valueType providers)
    (hq : q ∈ closestExact types context valueType providers) :
    p.contextType = q.contextType := by
  have hrank := rank_eq_of_mem_closest hp hq
  exact ContextDistance.eq_of_between_eq (of_mem_closestExact hp).1 (congrArg Rank.context hrank)

theorem admits_exact_narrower (narrows : types.tree.subsumes context narrower = true)
    (h : (exact types context valueType).admits p = true) :
    (exact types narrower valueType).admits p = true := by
  obtain ⟨hcontext, hvalue⟩ := admits_exact_iff.mp h
  exact admits_exact_iff.mpr ⟨TypeTree.subsumes_trans hcontext narrows, hvalue⟩

theorem subsumes_of_closestExact (narrows : types.tree.subsumes context narrower = true)
    (hp : p ∈ closestExact types context valueType providers)
    (hq : q ∈ closestExact types narrower valueType providers) :
    types.tree.subsumes p.contextType q.contextType = true := by
  obtain ⟨hmem, hadmits⟩ := List.mem_filter.mp (mem_closest.mp hp).1
  have hadmits' := admits_exact_narrower narrows hadmits
  have hbefore := (mem_closest.mp hq).2 p (List.mem_filter.mpr ⟨hmem, hadmits'⟩)
  apply ContextDistance.subsumes_of_not_before (admits_exact_iff.mp hadmits').1
    (of_mem_closestExact hq).1
  exact (Rank.before_ofContext _ _ _ _).symm.trans hbefore

/-- Without a provider in between, the closest are the same for narrower contexts. -/
theorem closestExact_narrower (narrows : types.tree.subsumes context narrower = true)
    (nothing_between : ∀ p ∈ providers, p.valueType = valueType →
      ¬ (p.contextType ≠ context ∧ types.tree.subsumes context p.contextType = true ∧
        types.tree.subsumes p.contextType narrower = true)) :
    closestExact types narrower valueType providers =
      closestExact types context valueType providers := by
  have hadmits : providers.filter (exact types narrower valueType).admits =
      providers.filter (exact types context valueType).admits := by
    apply List.filter_congr
    intro p hp
    rw [Bool.eq_iff_iff]
    refine ⟨?_, admits_exact_narrower narrows⟩
    intro h
    obtain ⟨hcontext, hvalue⟩ := admits_exact_iff.mp h
    refine admits_exact_iff.mpr ⟨?_, hvalue⟩
    -- Both types lie above the narrower one, so that one of them is above the other.
    rcases TypeTree.related_of_above hcontext narrows with above | below
    · exact above
    · by_cases hsame : p.contextType = context
      · rw [hsame]
        exact TypeTree.subsumes_self (TypeTree.known_of_subsumes narrows).1
      · exact absurd ⟨hsame, below, hcontext⟩ (nothing_between p hp hvalue)
  rw [closestExact, hadmits]
  apply closest_congr
  intro p hp q hq
  calc ((exact types narrower valueType).rank p).before ((exact types narrower valueType).rank q)
      = (ContextDistance.between types.tree narrower p.contextType).before
          (.between types.tree narrower q.contextType) := Rank.before_ofContext _ _ _ _
    _ = (ContextDistance.between types.tree context p.contextType).before
          (.between types.tree context q.contextType) :=
        ContextDistance.before_of_narrower narrows
          (admits_exact_iff.mp (List.mem_filter.mp hp).2).1
          (admits_exact_iff.mp (List.mem_filter.mp hq).2).1
    _ = ((exact types context valueType).rank p).before ((exact types context valueType).rank q) :=
        (Rank.before_ofContext _ _ _ _).symm

end Stage

namespace Registry

variable {r : Registry σ α} {context narrower valueType : TypeId} {time : Time}

theorem candidates_resolveExact
    (successful : (r.resolveExact context valueType time).isSuccessful = true) :
    (r.resolveExact context valueType time).candidates =
      (Stage.closestExact r.types context valueType (r.bucket time)).map .direct := by
  have accepted : ¬ (Stage.exact r.types context valueType).Objects r.types context
      (r.bucket time) :=
    Stage.not_objects_of_candidates _ _ _ _ (Resolution.isSuccessful_iff.mp successful)
  rw [resolveExact, Stage.exact_run_of_accepted accepted]
  rfl

/-- Where the exact stage is conclusive for a type of contexts, it is so for every narrower type.
What it finds is registered for one type of contexts, and what it finds for the narrower type is
registered for that type or below it. Both are the same if nothing with such values is registered
for a type from the narrower one up to below the wider one. -/
theorem inherited_by_narrower (narrows : r.types.tree.subsumes context narrower = true)
    (valueType : TypeId) (time : Time) :
    let wide := r.resolveExact context valueType time
    let narrow := r.resolveExact narrower valueType time
    (wide.isConclusive = true → narrow.isConclusive = true) ∧
    (wide.isSuccessful = true → narrow.isSuccessful = true →
      (∃ type, (∀ view ∈ wide.candidates, view.provider.contextType = type) ∧
        ∀ view ∈ narrow.candidates,
          r.types.tree.subsumes type view.provider.contextType = true) ∧
      ((∀ p ∈ r.bucket time, p.valueType = valueType →
          ¬ (p.contextType ≠ context ∧ r.types.tree.subsumes context p.contextType = true ∧
            r.types.tree.subsumes p.contextType narrower = true)) →
        narrow.candidates = wide.candidates)) := by
  intro wide narrow
  refine ⟨?_, ?_⟩
  · intro conclusive
    obtain ⟨p, hp, hvalue, hcontext⟩ := Stage.exact_isConclusive_iff.mp conclusive
    exact Stage.exact_isConclusive_iff.mpr
      ⟨p, hp, hvalue, TypeTree.subsumes_trans hcontext narrows⟩
  · intro successful successful'
    have hwide := candidates_resolveExact successful
    have hnarrow := candidates_resolveExact successful'
    refine ⟨?_, ?_⟩
    · obtain ⟨view, hview⟩ := List.exists_mem_of_ne_nil _ (Resolution.isSuccessful_iff.mp successful)
      rw [hwide] at hview
      obtain ⟨p, hp, -⟩ := List.mem_map.mp hview
      refine ⟨p.contextType, ?_, ?_⟩
      · rw [hwide]
        rintro _ hview
        obtain ⟨q, hq, rfl⟩ := List.mem_map.mp hview
        exact Stage.contextType_eq_of_closestExact hq hp
      · rw [hnarrow]
        rintro _ hview
        obtain ⟨q, hq, rfl⟩ := List.mem_map.mp hview
        exact Stage.subsumes_of_closestExact narrows hp hq
    · intro nothing_between
      rw [hnarrow, hwide, Stage.closestExact_narrower narrows nothing_between]

/-- What two provide everywhere is found in arrays and in arrays of arrays alike. A provider for
arrays of arrays takes their place there, and not in arrays. -/
theorem nested_arrays_inherit :
    let nested : TypeId := .ofNat 2
    let types : TypeSystem Unit Unit :=
      { tree := ((TypeTree.initial.arrayOf .root).1.arrayOf arrays).1 }
    let first := { (default : Provider Unit Unit) with label := "first" }
    let second := { first with label := "second", patterns := [.literal "all"] }
    let near := { first with label := "near", contextType := nested }
    let r := ofProviders types [first, second]
    let u := ofProviders types [first, near]
    let labels (result : Resolution Unit Unit) := result.candidates.map (·.provider.label)
    r.types.tree.subsumes arrays nested = true ∧
      (r.resolveExact nested .root .now).isConclusive = true ∧
      labels (r.resolveExact nested .root .now) = ["first", "second"] ∧
      (r.resolveExact nested .root .now).candidates =
        (r.resolveExact arrays .root .now).candidates ∧
      u.types.tree.subsumes arrays nested = true ∧
      labels (u.resolveExact arrays .root .now) = ["first"] ∧
      labels (u.resolveExact nested .root .now) = ["near"] ∧
      ∃ type,
        (∀ view ∈ (u.resolveExact arrays .root .now).candidates,
          view.provider.contextType = type) ∧
        ∀ view ∈ (u.resolveExact nested .root .now).candidates,
          u.types.tree.subsumes type view.provider.contextType = true := by
  intro nested types first second near r u labels
  have narrows : r.types.tree.subsumes arrays nested = true := by decide +kernel
  have narrows' : u.types.tree.subsumes arrays nested = true := by decide +kernel
  obtain ⟨hconclusive, hsame⟩ := inherited_by_narrower narrows .root .now
  obtain ⟨-, hbelow⟩ := inherited_by_narrower narrows' .root .now
  have same : (r.resolveExact nested .root .now).candidates =
      (r.resolveExact arrays .root .now).candidates :=
    (hsame (by decide +kernel) (by decide +kernel)).2 (by decide +kernel)
  exact ⟨narrows, hconclusive (by decide +kernel), by decide +kernel, same, narrows',
    by decide +kernel, by decide +kernel, (hbelow (by decide +kernel) (by decide +kernel)).1⟩

end Registry

end Provision
