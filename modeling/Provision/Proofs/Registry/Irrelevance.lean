import Provision.Proofs.Registry.Answer
import Provision.Proofs.Registry.Slots
import Provision.Proofs.View.Bridge

/-! # Providers that a request does not ask for

A provider that no stage of a request heeds can come and go without a change of the answer. -/

namespace Provision

variable {σ α : Type}

/-! ## Stages -/

namespace Stage

variable {types : TypeSystem σ α} {context : TypeId} {stage : Stage σ α} {p : Provider σ α}

/-- A stage that admits a provider hears no objection from it and cannot show it. -/
def Ignores (stage : Stage σ α) (types : TypeSystem σ α) (context : TypeId) (p : Provider σ α) :
    Prop :=
  stage.admits p = true → p.validate types.tree context = .valid ∧ stage.view? p = none

/-- What a stage ignores makes no difference, wherever it stands. -/
theorem Ignores.run_eq_without (h : stage.Ignores types context p)
    (before after : List (Provider σ α)) :
    stage.run types context (before ++ p :: after) = stage.run types context (before ++ after) := by
  have accepted : (stage.admits p && !(p.validate types.tree context).isValid) = false := by
    cases admitted : stage.admits p with
    | false => rfl
    | true => simp [(h admitted).1, Validation.isValid]
  have hidden : (stage.admits p && (stage.view? p).isSome) = false := by
    cases admitted : stage.admits p with
    | false => rfl
    | true => simp [(h admitted).2]
  have hobjector : stage.objector? types.tree context (before ++ p :: after) =
      stage.objector? types.tree context (before ++ after) := by
    simp only [objector?, List.find?_append, List.find?_cons, accepted]
  have hshown : stage.shown (before ++ p :: after) = stage.shown (before ++ after) := by
    simp only [shown, List.filter_append, List.filter_cons, hidden, Bool.false_eq_true, if_false]
  rw [run_eq, run_eq, hobjector, hshown]

theorem related_of_admits {request : Request} (hstage : stage ∈ request.stages types)
    (hadmits : stage.admits p = true) :
    types.tree.related p.contextType request.context = true := by
  rcases Request.mem_stages hstage with ⟨text, -, rfl⟩ | ⟨valueType, -, hkinds⟩
  · exact (Bool.and_eq_true_iff.mp hadmits).1
  · rcases hkinds with rfl | rfl | ⟨-, rfl | rfl⟩
    · exact (TypeTree.related_iff _ _ _).mpr (.inl (Bool.and_eq_true_iff.mp hadmits).1)
    · exact (Bool.and_eq_true_iff.mp hadmits).1
    · exact (Bool.and_eq_true_iff.mp hadmits).1
    · exact hadmits

end Stage

/-! ## Requests -/

/-- A provider is none of a request's business: for its context, for its times, for the identifier
that it looks for, or for the type of values, where these cannot be converted or must not be. -/
inductive Provider.Irrelevant (p : Provider σ α) (types : TypeSystem σ α) (request : Request) :
    Prop
  | context (apart : types.tree.related p.contextType request.context = false)
  | time (own : p.time ≠ request.time)
      (fallback : request.time ≠ .now → request.flags.contains .fallback = true → p.time ≠ .now)
  | identifier (text : String) (query : request.query = .identifier text)
      (unmatched : p.matchesInput text = false)
  | value (valueType : TypeId) (query : request.query = .type valueType)
      (apart : types.tree.related p.valueType valueType = false)
      (unconverted : request.flags.contains .conversion = false ∨
        p.validate types.tree request.context = .valid ∧
          types.converter? p.valueType valueType = none)

variable {types : TypeSystem σ α} {request : Request} {p : Provider σ α}

theorem View.convert?_direct_eq_none {context valueType : TypeId}
    (apart : types.tree.related p.valueType valueType = false)
    (unconverted : types.converter? p.valueType valueType = none) :
    (View.direct p).convert? types context valueType = none := by
  obtain ⟨-, unfit⟩ := (TypeTree.related_eq_false_iff _ _ _).mp apart
  rw [Option.eq_none_iff_forall_ne_some]
  intro view hview
  rcases convert?_direct_eq_some hview with ⟨fits, -⟩ | ⟨-, forward, hforward, -⟩
  · simp [fits.2] at unfit
  · simp [TypeSystem.between?_of_not_subsumes unfit, unconverted] at hforward

/-- An irrelevant provider stands at no time of the request, or every stage ignores it. -/
theorem Provider.Irrelevant.ignored (h : p.Irrelevant types request)
    (known : types.tree.Known p.valueType) (asked : p.time ∈ request.times) {stage : Stage σ α}
    (hstage : stage ∈ request.stages types) : stage.Ignores types request.context p := by
  intro hadmits
  cases h with
  | context apart => simp [Stage.related_of_admits hstage hadmits] at apart
  | time own fallback =>
      rcases Request.mem_times.mp asked with htime | ⟨hpast, hflags, htime⟩
      · exact absurd htime own
      · exact absurd htime (fallback hpast hflags)
  | identifier text query unmatched =>
      rcases Request.mem_stages hstage with ⟨asked, hquery, rfl⟩ | ⟨valueType, hquery, -⟩
      · obtain rfl := Query.identifier.inj (query.symm.trans hquery)
        simp [Stage.identified, unmatched] at hadmits
      · simp [query] at hquery
  | value valueType query apart unconverted =>
      have unrelated (h : types.tree.subsumes p.valueType valueType = true ∨
          types.tree.subsumes valueType p.valueType = true) : False := by
        rw [← TypeTree.related_iff, apart] at h
        exact Bool.false_ne_true h
      rcases Request.mem_stages hstage with ⟨text, hquery, -⟩ | ⟨asked, hquery, hkinds⟩
      · simp [query] at hquery
      · obtain rfl := Query.type.inj (query.symm.trans hquery)
        rcases hkinds with rfl | rfl | ⟨conversion, rfl | rfl⟩
        · have hvalue : p.valueType = valueType := beq_iff_eq.mp (Bool.and_eq_true_iff.mp hadmits).2
          exact (unrelated (.inl (hvalue ▸ TypeTree.subsumes_self known))).elim
        · exact (unrelated (.inr (Bool.and_eq_true_iff.mp hadmits).2)).elim
        · exact (unrelated (.inl (Bool.and_eq_true_iff.mp hadmits).2)).elim
        -- Conversion is tried for values of all types, so here the provider is admitted.
        · rcases unconverted with direct | ⟨accepts, unconverted⟩
          · simp [conversion] at direct
          · exact ⟨accepts, View.convert?_direct_eq_none apart unconverted⟩

namespace Registry

variable {r u grown : Registry σ α}

/-! ## A provider more -/

/-- A registry has the contents of another and one provider more, at its time. -/
structure Gains (r : Registry σ α) (p : Provider σ α) (u : Registry σ α) : Prop where
  types : u.types = r.types
  own : ∃ before after, r.bucket p.time = before ++ after ∧ u.bucket p.time = before ++ p :: after
  others : ∀ time, time ≠ p.time → u.bucket time = r.bucket time

theorem gains_of_register (h : r.register p = (.ok p, grown)) : r.Gains p grown := by
  obtain ⟨-, -, rfl⟩ := register_ok h
  refine ⟨rfl, ⟨r.bucket p.time, [], ?_, ?_⟩, ?_⟩
  · rw [List.append_nil]
  · simp [bucket, Buckets.get_modify]
  · intro time htime
    simp [bucket, Buckets.get_modify, htime]

theorem gains_of_unregister (slots : r.SlotsApart) (hp : p ∈ r.elements) :
    (r.unregister p).2.Gains p r := by
  obtain ⟨time, hp⟩ := mem_elements.mp hp
  obtain rfl := slots.time time p hp
  obtain ⟨before, after, split⟩ := List.append_of_mem hp
  have hleft := slots.bucket_unregister split rfl
  refine ⟨(unregister_changed r p).types_eq.symm, ⟨before, after, ?_, split⟩, ?_⟩
  · rw [hleft, if_pos rfl]
  · intro time htime
    rw [hleft, if_neg htime]

theorem Gains.answer_eq (h : r.Gains p u) (irrelevant : p.Irrelevant r.types request)
    (known : r.types.tree.Known p.valueType) : u.answer request = r.answer request := by
  refine (answer_related (fun _ _ => congrArg _) rfl h.types request ?_).symm
  intro tried htried
  obtain ⟨time, htime, htried⟩ := List.mem_flatMap.mp htried
  obtain ⟨stage, hstage, rfl⟩ := List.mem_map.mp htried
  simp only [outcome, h.types]
  by_cases hown : time = p.time
  · subst hown
    obtain ⟨before, after, hr, hu⟩ := h.own
    rw [hr, hu]
    exact ((irrelevant.ignored known htime hstage).run_eq_without before after).symm
  · rw [h.others time hown]

theorem Gains.resolve_eq (h : r.Gains p u) (hr : r.Reachable) (hu : u.Reachable)
    (irrelevant : p.Irrelevant r.types request) (hp : p ∈ u.elements) :
    (u.resolve request).1 = (r.resolve request).1 := by
  obtain ⟨time, hp⟩ := mem_elements.mp hp
  have known : r.types.tree.Known p.valueType := h.types ▸ (hu.typesKnown time p hp).2
  rw [hu.resolve_eq, hr.resolve_eq, h.answer_eq irrelevant known]

/-- A provider that is none of a request's business can be registered and unregistered without a
change of the answer. -/
theorem irrelevant_registration (reachable : r.Reachable)
    (irrelevant : p.Irrelevant r.types request) :
    (∀ grown, r.register p = (.ok p, grown) →
      (grown.resolve request).1 = (r.resolve request).1 ∧
        ((grown.unregister p).2.resolve request).1 = (grown.resolve request).1) ∧
    (p ∈ r.elements → ((r.unregister p).2.resolve request).1 = (r.resolve request).1) := by
  have leaves {w : Registry σ α} (hw : w.Reachable) (types : w.types = r.types)
      (hp : p ∈ w.elements) : ((w.unregister p).2.resolve request).1 = (w.resolve request).1 := by
    have gains := gains_of_unregister hw.slotsApart hp
    rw [← types, gains.types] at irrelevant
    exact (gains.resolve_eq (hw.unregister p) hw irrelevant hp).symm
  refine ⟨?_, leaves reachable rfl⟩
  intro grown registered
  have gains := gains_of_register registered
  have hgrown := reachable.register registered
  have hp : p ∈ grown.elements := mem_elements_of_register registered
  exact ⟨gains.resolve_eq reachable hgrown irrelevant hp, leaves hgrown gains.types hp⟩

/-- What provides numbers comes and goes where a text is found, as no converter makes texts of
numbers. -/
theorem texts_found_despite_numbers :
    let number := { message with valueType := numbers, getter := fun _ _ => some ⟨numbers, ()⟩ }
    let request : Request := ⟨arrays, .type texts, .now, .default⟩
    (messages.resolve request).1.isSuccessful = true ∧
      ∃ grown, messages.register number = (.ok number, grown) ∧
        (grown.resolve request).1 = (messages.resolve request).1 ∧
        ((grown.unregister number).2.resolve request).1 = (messages.resolve request).1 := by
  intro number request
  have found : (messages.resolve request).1.isSuccessful = true := by decide +kernel
  have known : messages.types.tree.Known arrays ∧ messages.types.tree.Known numbers := by
    decide +kernel
  have free : messages.isRegistered number = false := by decide +kernel
  have apart : messages.types.tree.related numbers texts = false := by decide +kernel
  have accepts : number.validate messages.types.tree arrays = .valid := by decide +kernel
  have unconverted : (messages.types.converter? numbers texts).isNone = true := by decide +kernel
  have irrelevant : number.Irrelevant messages.types request :=
    .value texts rfl apart (.inr ⟨accepts, Option.isNone_iff_eq_none.mp unconverted⟩)
  let grown := (messages.register number).2
  have registered : messages.register number = (.ok number, grown) :=
    Prod.ext (register_eq_ok_iff.mpr ⟨known, free⟩) rfl
  obtain ⟨hregister, -⟩ := irrelevant_registration (ofProviders_reachable _ _) irrelevant
  obtain ⟨comes, goes⟩ := hregister grown registered
  exact ⟨found, grown, registered, comes, goes.trans comes⟩

end Registry

end Provision
