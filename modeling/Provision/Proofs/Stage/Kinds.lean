import Provision.Proofs.Stage.Outcome
import Provision.Proofs.View.Bridge

/-! # What the stages of a search hand out

Every candidate shows a provider that accepts a related context. It is the provider itself if that
fits: a stage that always bridges is reached only where no provider fits. -/

namespace Provision

variable {σ α : Type}

/-- A view shows one of the providers, in a context that is related to its own and that it accepts,
as the type that is wanted of it. -/
def View.ShownFrom (types : TypeSystem σ α) (context : TypeId) (wanted : Provider σ α → TypeId)
    (providers : List (Provider σ α)) (view : View σ α) : Prop :=
  ∃ p ∈ providers, p.validate types.tree context = .valid ∧
    types.tree.related p.contextType context = true ∧
    View.Shows types context (wanted p) p view

namespace Stage

variable {types : TypeSystem σ α} {context valueType : TypeId} {providers : List (Provider σ α)}
  {view : View σ α}

/-! ## Stages by type -/

theorem exact_shown (known : ∀ p ∈ providers, types.tree.Known p.valueType)
    (h : view ∈ ((exact types context valueType).run types context providers).candidates) :
    view.ShownFrom types context (fun _ => valueType) providers := by
  obtain ⟨p, hp, hadmits, hvalid, hview⟩ := exists_of_mem_candidates_run _ _ _ _ h
  obtain ⟨hcontext, rfl⟩ : types.tree.subsumes p.contextType context = true ∧
      p.valueType = valueType := by
    simpa [exact] using hadmits
  obtain rfl := Option.some.inj hview
  refine ⟨p, hp, hvalid, (TypeTree.related_iff _ _ _).mpr (.inl hcontext), ?_⟩
  exact .direct ⟨hcontext, TypeTree.subsumes_self (known p hp)⟩

theorem nearest_shown
    (h : view ∈ ((nearest types context valueType).run types context providers).candidates) :
    view.ShownFrom types context (fun _ => valueType) providers := by
  obtain ⟨p, hp, hadmits, hvalid, hview⟩ := exists_of_mem_candidates_run _ _ _ _ h
  have hrelated : types.tree.related p.contextType context = true :=
    (Bool.and_eq_true_iff.mp hadmits).1
  exact ⟨p, hp, hvalid, hrelated, View.shows_of_convert? hview⟩

theorem unfit_of_nearest_inconclusive
    (h : ((nearest types context valueType).run types context providers).isConclusive = false)
    {p : Provider σ α} (hp : p ∈ providers) : ¬ p.Fits types.tree context valueType := by
  rintro ⟨hcontext, hvalue⟩
  have hrelated := (TypeTree.related_iff types.tree p.contextType context).mpr (.inl hcontext)
  have hfinds : (nearest types context valueType).Finds providers :=
    ⟨p, hp, by simp [nearest, hrelated, hvalue], View.isSome_convert?_of_subsumes hvalue⟩
  rw [(isConclusive_run_iff _ _ _ _).mpr (.inr hfinds)] at h
  simp at h

theorem narrowing_shown (unfit : ∀ p ∈ providers, ¬ p.Fits types.tree context valueType)
    (h : view ∈ ((narrowing types context valueType).run types context providers).candidates) :
    view.ShownFrom types context (fun _ => valueType) providers := by
  obtain ⟨p, hp, hadmits, hvalid, hview⟩ := exists_of_mem_candidates_run _ _ _ _ h
  have hrelated : types.tree.related p.contextType context = true :=
    (Bool.and_eq_true_iff.mp hadmits).1
  obtain rfl := Option.some.inj hview
  refine ⟨p, hp, hvalid, hrelated, ?_⟩
  exact .bridged (unfit p hp) _ _

theorem converting_shown
    (h : view ∈ ((converting types context valueType).run types context providers).candidates) :
    view.ShownFrom types context (fun _ => valueType) providers := by
  obtain ⟨p, hp, hadmits, hvalid, hview⟩ := exists_of_mem_candidates_run _ _ _ _ h
  exact ⟨p, hp, hvalid, hadmits, View.shows_of_convert? hview⟩

/-! ## The stage by identifier -/

theorem identified_shown {identifier : String}
    (h : view ∈ ((identified types context identifier).run types context providers).candidates) :
    view.ShownFrom types context (·.valueType) providers := by
  obtain ⟨p, hp, hadmits, hvalid, hview⟩ := exists_of_mem_candidates_run _ _ _ _ h
  have hrelated : types.tree.related p.contextType context = true :=
    (Bool.and_eq_true_iff.mp hadmits).1
  exact ⟨p, hp, hvalid, hrelated, View.shows_of_convert? hview⟩

end Stage

end Provision
