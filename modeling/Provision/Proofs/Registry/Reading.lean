import Provision.Proofs.Registry.Candidates
import Provision.Proofs.View.Reading

/-! # What is read off a search's candidates

Where getters and conversions keep to their types, every candidate for a request is read within its
types, and gives values of the type that is asked for. -/

namespace Provision

variable {σ α : Type}

/-! ## Candidates are built on providers -/

theorem Stage.builtOn_of_mem_stages {types : TypeSystem σ α} {request : Request}
    {stage : Stage σ α} {p : Provider σ α} {view : View σ α}
    (hstage : stage ∈ request.stages types) (known : types.tree.Known p.valueType)
    (hadmits : stage.admits p = true) (hview : stage.view? p = some view) :
    view.BuiltOn types request.context (request.query.wanted p) p := by
  unfold Query.wanted
  rcases Request.mem_stages hstage with ⟨text, hquery, rfl⟩ | ⟨valueType, hquery, hkinds⟩
  · rw [hquery]
    exact View.builtOn_of_convert? hview
  · rw [hquery]
    rcases hkinds with rfl | rfl | ⟨-, rfl | rfl⟩
    · exact Stage.exact_builtOn known hadmits hview
    · exact View.builtOn_of_convert? hview
    · exact Stage.narrowing_builtOn hadmits hview
    · exact View.builtOn_of_convert? hview

namespace Registry

variable {r : Registry σ α} {request : Request} {view : View σ α}

theorem exists_stage_of_mem_candidates (h : view ∈ (r.answer request).candidates) :
    ∃ time ∈ request.times, ∃ stage ∈ request.stages r.types, ∃ p ∈ r.bucket time,
      stage.admits p = true ∧ stage.view? p = some view := by
  obtain ⟨time, htime, stage, hstage, heq⟩ := exists_outcome_of_candidates (List.ne_nil_of_mem h)
  rw [heq] at h
  obtain ⟨p, hp, hadmits, -, hview⟩ := Stage.exists_of_mem_candidates_run _ _ _ _ h
  exact ⟨time, htime, stage, hstage, p, hp, hadmits, hview⟩

theorem candidate_builtOn (reachable : r.Reachable)
    (h : view ∈ (r.resolve request).1.candidates) :
    view.provider ∈ r.elements ∧
      view.BuiltOn r.types request.context (request.query.wanted view.provider) view.provider := by
  rw [reachable.resolve_eq] at h
  obtain ⟨time, -, stage, hstage, p, hp, hadmits, hview⟩ := exists_stage_of_mem_candidates h
  have known := (reachable.typesKnown time p hp).2
  have hbuilt := Stage.builtOn_of_mem_stages hstage known hadmits hview
  obtain rfl := hbuilt.provider_eq
  exact ⟨mem_elements.mpr ⟨time, hp⟩, hbuilt⟩

theorem known_context_of_candidate (reachable : r.Reachable)
    (h : view ∈ (r.resolve request).1.candidates) : r.types.tree.Known request.context := by
  obtain ⟨-, -, p, -, -, hrelated, -⟩ := exists_shownFrom_of_candidate reachable h
  exact (TypeTree.known_of_related hrelated).2

/-! ## Reading candidates -/

section

variable (reachable : r.Reachable) (getters : ∀ p ∈ r.elements, p.KeepsTypes r.types.tree)
  (conversion : r.types.conversion.KeepsTypes r.types.tree)

include reachable getters conversion

theorem candidate_readsWithin (h : view ∈ (r.resolve request).1.candidates) {s : σ}
    {context : Value α} (hcontext : context.isA r.types.tree request.context = true) :
    view.ReadsWithin r.types s context := by
  obtain ⟨hp, hbuilt⟩ := candidate_builtOn reachable h
  exact hbuilt.readsWithin (getters _ hp) conversion hcontext

theorem isA_of_get_candidate {valueType : TypeId} (hquery : request.query = .type valueType)
    (h : view ∈ (r.resolve request).1.candidates) {s : σ} {context value : Value α}
    (hcontext : context.isA r.types.tree request.context = true)
    (hvalue : view.get s context = some value) : value.isA r.types.tree valueType = true := by
  obtain ⟨hp, hbuilt⟩ := candidate_builtOn reachable h
  have hread := (hbuilt.readsWithin (getters _ hp) conversion hcontext).value value hvalue
  rw [hquery] at hbuilt
  exact hbuilt.isA_wanted hread

end

/-- If all getters and conversions keep to their types, then reading a candidate off a context that
it was asked for invokes none of them on a value of another type than its own, and what is read is
of the candidate's type, and of the requested one. -/
theorem reads_within_types {r : Registry σ α} (reachable : r.Reachable)
    (getters : ∀ p ∈ r.elements, p.KeepsTypes r.types.tree)
    (conversion : r.types.conversion.KeepsTypes r.types.tree) :
    (∀ (request : Request) (view : View σ α) (s : σ) (context : Value α),
      view ∈ (r.resolve request).1.candidates →
      context.isA r.types.tree request.context = true →
      view.provider ∈ r.elements ∧ view.ReadsWithin r.types s context ∧
        ∀ valueType value, request.query = .type valueType → view.get s context = some value →
          value.isA r.types.tree valueType = true) ∧
    ∀ (s : σ) (context : Value α) (valueType : TypeId) (time : Time) (value : Value α),
      (r.valueOf s context valueType time).1 = some value →
        value.isA r.types.tree valueType = true := by
  constructor
  · intro request view s context hview hcontext
    refine ⟨(candidate_builtOn reachable hview).1,
      candidate_readsWithin reachable getters conversion hview hcontext, ?_⟩
    intro valueType value hquery hvalue
    exact isA_of_get_candidate reachable getters conversion hquery hview hcontext hvalue
  · intro s context valueType time value hvalue
    obtain ⟨view, hany, hget⟩ := Option.bind_eq_some_iff.mp hvalue
    have hview := List.mem_of_mem_head? hany
    have hcontext : context.isA r.types.tree context.type = true :=
      TypeTree.subsumes_self (known_context_of_candidate reachable hview)
    exact isA_of_get_candidate reachable getters conversion rfl hview hcontext hget

/-- The message of an array is read as a number where the past of everything is asked for. -/
theorem message_reads_within_types :
    let request : Request := ⟨.root, .type numbers, .past, .default⟩
    (∃ view ∈ (messages.resolve request).1.candidates,
      view.isBridged = true ∧ (view.get () ⟨arrays, ()⟩).isSome = true ∧
        view.ReadsWithin messages.types () ⟨arrays, ()⟩) ∧
    ∃ value, (messages.valueOf () ⟨arrays, ()⟩ numbers .past).1 = some value ∧
      value.isA messages.types.tree numbers = true := by
  intro request
  have reachable : messages.Reachable := ofProviders_reachable _ _
  have htypes : messages.types = oneWay := run_types _ _
  have getters : ∀ p ∈ messages.elements, p.KeepsTypes messages.types.tree := by
    intro p hp s context value _ hvalue
    obtain rfl := List.mem_singleton.mp (mem_of_mem_elements_ofProviders hp)
    obtain rfl := Option.some.inj hvalue
    rw [htypes]
    decide +kernel
  have conversion : messages.types.conversion.KeepsTypes messages.types.tree := by
    rw [htypes]
    intro entry hentry s value turned _ hturned
    obtain rfl := List.mem_singleton.mp hentry
    obtain rfl := Option.some.inj hturned
    decide +kernel
  obtain ⟨hcandidates, hvalueOf⟩ := reads_within_types reachable getters conversion
  have hread : (messages.resolve request).1.candidates.any (fun view =>
      view.isBridged && (view.get () ⟨arrays, ()⟩).isSome) = true := by decide +kernel
  have hfound : (messages.valueOf () ⟨arrays, ()⟩ numbers .past).1.isSome = true := by
    decide +kernel
  have hcontext : (⟨arrays, ()⟩ : Value Unit).isA messages.types.tree .root = true := by
    decide +kernel
  obtain ⟨view, hview, hview'⟩ := List.any_eq_true.mp hread
  obtain ⟨hbridged, hsome⟩ := Bool.and_eq_true_iff.mp hview'
  obtain ⟨value, hvalue⟩ := Option.isSome_iff_exists.mp hfound
  refine ⟨⟨view, hview, hbridged, hsome, ?_⟩, value, hvalue, hvalueOf _ _ _ _ _ hvalue⟩
  exact (hcandidates request view () ⟨arrays, ()⟩ hview hcontext).2.1

end Registry

end Provision
