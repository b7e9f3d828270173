import Provision.Proofs.Registry.Inheritance
import Provision.Proofs.Registry.Irrelevance
import Provision.Proofs.Registry.Reading

/-! # What can be tied

Several candidates are equally close. So they are for one time, and for one type of contexts unless
they are for narrower ones than the requested. -/

namespace Provision

variable {σ α : Type}

/-- What candidates that are tied have in common: a time, and where their contexts lie. These are of
one type, which is the requested one or lies above it, or they are equally many steps below. -/
structure Tied (t : TypeTree) (context : TypeId) (views : List (View σ α)) : Prop where
  time : ∃ time, ∀ view ∈ views, view.provider.time = time
  context :
    (∃ type, t.subsumes type context = true ∧ ∀ view ∈ views, view.provider.contextType = type) ∨
      ∃ steps, 0 < steps ∧
        ∀ view ∈ views, t.distance? context view.provider.contextType = some steps

namespace Stage

variable {types : TypeSystem σ α} {request : Request} {stage : Stage σ α}
  {providers : List (Provider σ α)} {time : Time} {view : View σ α}

theorem context_rank (hstage : stage ∈ request.stages types) (p : Provider σ α) :
    (stage.rank p).context = .between types.tree request.context p.contextType := by
  rcases Request.mem_stages hstage with ⟨text, -, rfl⟩ | ⟨valueType, -, hkinds⟩
  · rfl
  · rcases hkinds with rfl | rfl | ⟨-, rfl | rfl⟩ <;> rfl

theorem provider_mem_closest (hstage : stage ∈ request.stages types)
    (known : ∀ p ∈ providers, types.tree.Known p.valueType)
    (h : view ∈ (stage.run types request.context providers).candidates) :
    view.provider ∈ closest stage.rank (stage.shown providers) := by
  obtain ⟨p, hp, -, hview⟩ := exists_closest_of_mem_candidates_run _ _ _ _ h
  obtain ⟨hprovider, hadmits, -⟩ := mem_shown.mp (mem_closest.mp hp).1
  have hbuilt := builtOn_of_mem_stages hstage (known p hprovider) hadmits hview
  rwa [hbuilt.provider_eq]

theorem tied_run (hstage : stage ∈ request.stages types)
    (known : ∀ p ∈ providers, types.tree.Known p.valueType)
    (own : ∀ p ∈ providers, p.time = time)
    (found : (stage.run types request.context providers).candidates ≠ []) :
    Tied types.tree request.context (stage.run types request.context providers).candidates := by
  have hclosest : ∀ view ∈ (stage.run types request.context providers).candidates,
      view.provider ∈ closest stage.rank (stage.shown providers) := fun view =>
    provider_mem_closest hstage known
  have hmem : ∀ view ∈ (stage.run types request.context providers).candidates,
      view.provider ∈ providers ∧ stage.admits view.provider = true := by
    intro view hview
    obtain ⟨hprovider, hadmits, -⟩ := mem_shown.mp (mem_closest.mp (hclosest view hview)).1
    exact ⟨hprovider, hadmits⟩
  obtain ⟨first, hfirst⟩ := List.exists_mem_of_ne_nil _ found
  have hsame : ∀ view ∈ (stage.run types request.context providers).candidates,
      ContextDistance.between types.tree request.context first.provider.contextType =
        .between types.tree request.context view.provider.contextType := by
    intro view hview
    rw [← context_rank hstage, ← context_rank hstage,
      rank_eq_of_mem_closest (hclosest first hfirst) (hclosest view hview)]
  refine ⟨⟨time, fun view hview => own _ (hmem view hview).1⟩, ?_⟩
  have hrelated := related_of_admits hstage (hmem first hfirst).2
  rcases ContextDistance.above_or_below_of_related hrelated with above | ⟨steps, hpos, hbelow⟩
  · refine .inl ⟨first.provider.contextType, above, ?_⟩
    intro view hview
    exact (ContextDistance.eq_of_between_eq above (hsame view hview)).symm
  · refine .inr ⟨steps, hpos, ?_⟩
    intro view hview
    exact (ContextDistance.between_eq_below_iff.mp ((hsame view hview).symm.trans hbelow)).2

end Stage

namespace Registry

variable {r : Registry σ α}

/-- No two providers that the exact stage finds go by the same patterns. -/
theorem patterns_apart_resolveExact (slots : r.SlotsApart) {context valueType : TypeId}
    {time : Time} (successful : (r.resolveExact context valueType time).isSuccessful = true) :
    ((r.resolveExact context valueType time).candidates.map fun view =>
      view.provider.patterns.map (·.source)).Nodup := by
  rw [candidates_resolveExact successful, List.map_map]
  have apart : ((Stage.closestExact r.types context valueType (r.bucket time)).map
      Provider.slot).Nodup :=
    (Stage.closestExact_sublist.map Provider.slot).nodup (slots.apart time)
  rw [List.nodup_iff_pairwise_ne, List.pairwise_map] at apart ⊢
  refine apart.imp_of_mem ?_
  intro p q hp hq hslot sources
  -- Types do not tell their slots apart, so the patterns do.
  have hcontext : p.contextType = q.contextType := Stage.contextType_eq_of_closestExact hp hq
  have hvalue : p.valueType = q.valueType :=
    (Stage.of_mem_closestExact hp).2.trans (Stage.of_mem_closestExact hq).2.symm
  have hsources : p.patterns.map (·.source) = q.patterns.map (·.source) := sources
  apply hslot
  rw [Provider.slot, Provider.slot, hcontext, hvalue, hsources]

/-- Several candidates are tied. Those of the exact stage are also for values of one type, and no
two of them go by the same patterns. -/
theorem ties_between_equals (reachable : r.Reachable) :
    (∀ request, (r.resolve request).1.isMultiple = true →
      Tied r.types.tree request.context (r.resolve request).1.candidates) ∧
    ∀ context valueType time, (r.resolveExact context valueType time).isMultiple = true →
      Tied r.types.tree context (r.resolveExact context valueType time).candidates ∧
        (∀ view ∈ (r.resolveExact context valueType time).candidates,
          view.provider.valueType = valueType) ∧
        ((r.resolveExact context valueType time).candidates.map fun view =>
          view.provider.patterns.map (·.source)).Nodup := by
  have known (time : Time) : ∀ p ∈ r.bucket time, r.types.tree.Known p.valueType :=
    fun p hp => (reachable.typesKnown time p hp).2
  have slots := reachable.slotsApart
  refine ⟨?_, ?_⟩
  · intro request multiple
    rw [reachable.resolve_eq] at multiple ⊢
    have found := Resolution.candidates_ne_nil_of_isMultiple multiple
    obtain ⟨time, -, stage, hstage, hanswer⟩ := exists_outcome_of_candidates found
    rw [hanswer] at found ⊢
    exact Stage.tied_run hstage (known time) (slots.time time) found
  · intro context valueType time multiple
    have found := Resolution.candidates_ne_nil_of_isMultiple multiple
    have hstage : .exact r.types context valueType ∈
        Request.stages ⟨context, .type valueType, time, .empty⟩ r.types := by
      unfold Request.stages
      dsimp only
      split <;> exact List.mem_cons_self
    refine ⟨?_, ?_, ?_⟩
    · exact Stage.tied_run hstage (known time) (slots.time time) found
    · intro view hview
      obtain ⟨p, -, rfl, hvalue⟩ := Stage.exact_direct hview
      exact hvalue
    · exact patterns_apart_resolveExact slots (Resolution.isSuccessful_iff.mpr found)

/-- Two providers of numbers are tied in arrays, for they go by different words. In the contexts of
the root a third one, for texts, is tied with both, as arrays and texts lie one step below. -/
theorem three_tied_below_root :
    let first := { message with label := "first", contextType := arrays, valueType := numbers }
    let second := { first with label := "second", patterns := [.literal "count"] }
    let third := { first with label := "third", contextType := texts }
    let r := ofProviders oneWay [first, second, third]
    let request : Request := ⟨.root, .type numbers, .now, .default⟩
    let labels (result : Resolution Unit Unit) := result.candidates.map (·.provider.label)
    r.Reachable ∧
      (r.resolve request).1.isMultiple = true ∧
      labels (r.resolve request).1 = ["first", "second", "third"] ∧
      Tied r.types.tree .root (r.resolve request).1.candidates ∧
      (r.resolveExact arrays numbers .now).isMultiple = true ∧
      labels (r.resolveExact arrays numbers .now) = ["first", "second"] ∧
      Tied r.types.tree arrays (r.resolveExact arrays numbers .now).candidates := by
  intro first second third r request labels
  have reachable : r.Reachable := ofProviders_reachable _ _
  have multiple : (r.resolve request).1.isMultiple = true := by decide +kernel
  have multiple' : (r.resolveExact arrays numbers .now).isMultiple = true := by decide +kernel
  obtain ⟨hresolve, hexact⟩ := ties_between_equals reachable
  exact ⟨reachable, multiple, by decide +kernel, hresolve request multiple, multiple',
    by decide +kernel, (hexact _ _ _ multiple').1⟩

end Registry

end Provision
