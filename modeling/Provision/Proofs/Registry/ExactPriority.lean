import Provision.Proofs.Registry.Answer

/-! # The exact stage comes first

Where a provider of the very value type covers the context, the exact stage decides, and what it
finds is registered for that type. Providers for the very context leave all others behind. -/

namespace Provision

variable {σ α : Type}

/-! ## The exact stage -/

namespace Stage

variable {types : TypeSystem σ α} {context valueType : TypeId} {providers : List (Provider σ α)}

theorem admits_exact_iff {p : Provider σ α} :
    (exact types context valueType).admits p = true ↔
      types.tree.subsumes p.contextType context = true ∧ p.valueType = valueType := by
  simp [exact]

theorem exact_isConclusive_iff :
    ((exact types context valueType).run types context providers).isConclusive = true ↔
      ∃ p ∈ providers,
        p.valueType = valueType ∧ types.tree.subsumes p.contextType context = true := by
  rw [isConclusive_run_iff_admits _ _ _ _ fun _ _ => rfl]
  simp only [admits_exact_iff, and_comm]

theorem exact_direct {view : View σ α}
    (h : view ∈ ((exact types context valueType).run types context providers).candidates) :
    ∃ p ∈ providers, view = .direct p ∧ p.valueType = valueType := by
  obtain ⟨p, hp, hadmits, -, hview⟩ := exists_of_mem_candidates_run _ _ _ _ h
  have hvalue : p.valueType = valueType := beq_iff_eq.mp (Bool.and_eq_true_iff.mp hadmits).2
  exact ⟨p, hp, (Option.some.inj hview).symm, hvalue⟩

/-- Views of providers of the very value type go by no other name, so none is dropped. -/
theorem keep_exact_eq_self {lex : Lexicon} {views : List (View σ α)}
    (h : ∀ view ∈ views, view.provider.valueType = valueType) :
    (exact types context valueType).keep lex views = views := by
  refine disambiguate_eq_self ?_
  intro view hview name hname
  rw [h view hview] at hname
  simp [hname]

/-- The closest of the providers that the exact stage admits. -/
def closestExact (types : TypeSystem σ α) (context valueType : TypeId)
    (providers : List (Provider σ α)) : List (Provider σ α) :=
  closest (exact types context valueType).rank
    (providers.filter (exact types context valueType).admits)

theorem closestExact_sublist :
    (closestExact types context valueType providers).Sublist providers :=
  List.filter_sublist.trans List.filter_sublist

theorem of_mem_closestExact {p : Provider σ α}
    (h : p ∈ closestExact types context valueType providers) :
    types.tree.subsumes p.contextType context = true ∧ p.valueType = valueType :=
  admits_exact_iff.mp (List.mem_filter.mp (mem_closest.mp h).1).2

theorem exact_run_of_accepted
    (accepted : ¬ (exact types context valueType).Objects types context providers) :
    (exact types context valueType).run types context providers =
      .found ((closestExact types context valueType providers).map .direct) := by
  have hshown : (exact types context valueType).shown providers =
      providers.filter (exact types context valueType).admits := by
    simp [shown, exact]
  have hviews : (exact types context valueType).closestViews
      ((exact types context valueType).shown providers) =
        (closestExact types context valueType providers).map .direct := by
    rw [closestViews, hshown]
    exact congrFun List.filterMap_eq_map _
  rw [run_of_not_objects _ _ _ _ accepted, hviews, keep_exact_eq_self]
  intro view hview
  obtain ⟨p, hp, rfl⟩ := List.mem_map.mp hview
  exact (of_mem_closestExact hp).2

theorem closestExact_of_registered (known : types.tree.Known context)
    (h : ∃ p ∈ providers, p.contextType = context ∧ p.valueType = valueType) :
    closestExact types context valueType providers =
      providers.filter fun p => p.contextType == context && p.valueType == valueType := by
  have hself := TypeTree.subsumes_self known
  have hattained : ∃ p ∈ providers.filter (exact types context valueType).admits,
      (exact types context valueType).rank p = {} := by
    obtain ⟨p, hp, rfl, rfl⟩ := h
    refine ⟨p, List.mem_filter.mpr ⟨hp, admits_exact_iff.mpr ⟨hself, rfl⟩⟩, ?_⟩
    exact (Rank.ofContext_eq_default_iff _ _ _).mpr ⟨known, rfl⟩
  rw [closestExact, closest_eq_filter hattained fun p _ => Rank.not_before_default _,
    List.filter_filter]
  apply List.filter_congr
  intro p hp
  have hrank : (exact types context valueType).rank p = {} ↔ p.contextType = context :=
    (Rank.ofContext_eq_default_iff _ _ _).trans (and_iff_right known)
  rw [Bool.eq_iff_iff]
  simp only [Bool.and_eq_true, beq_iff_eq, hrank, admits_exact_iff]
  constructor
  · rintro ⟨hcontext, -, hvalue⟩
    exact ⟨hcontext, hvalue⟩
  · rintro ⟨rfl, rfl⟩
    exact ⟨rfl, hself, rfl⟩

theorem exact_run_of_registered (known : types.tree.Known context)
    (h : ∃ p ∈ providers, p.contextType = context ∧ p.valueType = valueType)
    (accepted : ¬ (exact types context valueType).Objects types context providers) :
    (exact types context valueType).run types context providers =
      .found ((providers.filter fun p =>
        p.contextType == context && p.valueType == valueType).map .direct) := by
  rw [exact_run_of_accepted accepted, closestExact_of_registered known h]

end Stage

namespace Registry

variable {r : Registry σ α} {context valueType : TypeId} {time : Time}

/-! ## Searches by type -/

theorem answer_eq_resolveExact
    (h : (r.resolveExact context valueType time).isConclusive = true) (flags : SearchFlags) :
    r.answer ⟨context, .type valueType, time, flags⟩ = r.resolveExact context valueType time := by
  have hat : r.answerAt ⟨context, .type valueType, time, flags⟩ time =
      r.resolveExact context valueType time := by
    unfold resolveExact at h ⊢
    unfold answerAt Request.stages
    dsimp only
    split <;> simp only [Stage.firstConclusive, h, if_true]
  rw [answer_eq]
  simp only [hat, h, if_true]

/-- A provider of the very value type for the context or above it decides every search at its time,
whatever the flags and whatever else is registered or was asked. Where some are registered for the
very context, the search yields all of those in order, unless it is refused. -/
theorem exact_takes_priority (reachable : r.Reachable) (context valueType : TypeId) (time : Time) :
    ((∃ p ∈ r.bucket time,
        p.valueType = valueType ∧ r.types.tree.subsumes p.contextType context = true) →
      ∀ flags,
        (r.resolve ⟨context, .type valueType, time, flags⟩).1 =
            r.resolveExact context valueType time ∧
          (r.resolve ⟨context, .type valueType, time, flags⟩).1.isConclusive = true ∧
          ∀ view ∈ (r.resolve ⟨context, .type valueType, time, flags⟩).1.candidates,
            ∃ p ∈ r.bucket time, view = .direct p ∧ p.valueType = valueType) ∧
    (r.isRegisteredFor context valueType time = true →
      ∀ flags,
        (r.resolve ⟨context, .type valueType, time, flags⟩).1.isRefused = true ∨
          (r.resolve ⟨context, .type valueType, time, flags⟩).1 =
            .found (((r.bucket time).filter fun p =>
              p.contextType == context && p.valueType == valueType).map .direct)) := by
  simp only [reachable.resolve_eq]
  constructor
  · intro hcovered flags
    have hconclusive : (r.resolveExact context valueType time).isConclusive = true :=
      Stage.exact_isConclusive_iff.mpr hcovered
    rw [answer_eq_resolveExact hconclusive]
    exact ⟨rfl, hconclusive, fun view => Stage.exact_direct⟩
  · intro hregistered flags
    obtain ⟨p, hp, hfits⟩ := List.any_eq_true.mp hregistered
    obtain ⟨rfl, rfl⟩ : p.contextType = context ∧ p.valueType = valueType := by
      simpa using hfits
    have known := (reachable.typesKnown time p hp).1
    have hconclusive : (r.resolveExact p.contextType p.valueType time).isConclusive = true :=
      Stage.exact_isConclusive_iff.mpr ⟨p, hp, rfl, TypeTree.subsumes_self known⟩
    rw [answer_eq_resolveExact hconclusive]
    by_cases hobjects : (Stage.exact r.types p.contextType p.valueType).Objects r.types
        p.contextType (r.bucket time)
    · exact .inl ((Stage.isRefused_run_iff _ _ _ _).mpr hobjects)
    · exact .inr (Stage.exact_run_of_registered known ⟨p, hp, rfl, rfl⟩ hobjects)

/-- What is registered for arrays themselves is found, whatever the flags, though a provider above
them was registered first. -/
theorem arrays_take_priority :
    let far := { (default : Provider Unit Unit) with valueType := arrays, time := .past }
    let near := { far with contextType := arrays }
    let r := ofArrays [far, near]
    r.Reachable ∧
      (∃ p ∈ r.bucket .past,
        p.valueType = arrays ∧ r.types.tree.subsumes p.contextType arrays = true) ∧
      r.isRegisteredFor arrays arrays .past = true ∧
      ∀ flags,
        (r.resolve ⟨arrays, .type arrays, .past, flags⟩).1 = r.resolveExact arrays arrays .past ∧
          (r.resolve ⟨arrays, .type arrays, .past, flags⟩).1 =
            .found (((r.bucket .past).filter fun p =>
              p.contextType == arrays && p.valueType == arrays).map .direct) := by
  intro far near r
  have reachable : r.Reachable := ofArrays_reachable _
  have hany : ((r.bucket .past).any fun p =>
      p.valueType == arrays && r.types.tree.subsumes p.contextType arrays) = true := by
    decide +kernel
  have hcovered : ∃ p ∈ r.bucket .past,
      p.valueType = arrays ∧ r.types.tree.subsumes p.contextType arrays = true := by
    simpa using hany
  have hregistered : r.isRegisteredFor arrays arrays .past = true := by decide +kernel
  have haccepted : (r.resolveExact arrays arrays .past).isRefused = false := by decide +kernel
  refine ⟨reachable, hcovered, hregistered, ?_⟩
  intro flags
  have hexact := ((exact_takes_priority reachable _ _ _).1 hcovered flags).1
  refine ⟨hexact, ?_⟩
  rcases (exact_takes_priority reachable _ _ _).2 hregistered flags with hrefused | hfound
  · rw [hexact, haccepted] at hrefused
    simp at hrefused
  · exact hfound

end Registry

end Provision
