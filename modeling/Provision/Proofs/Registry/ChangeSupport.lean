import Provision.Proofs.Registry.Reading
import Provision.Proofs.View.Nesting

/-! # Which supported changes get through

A result supports a change that all its candidates' providers offer. A candidate across a bridge
without a way back offers it too, but a change that takes a value has no effect through it. -/

namespace Provision

variable {σ α : Type}

/-! ## Changes without a way back -/

theorem Changers.isWithoutValue_of_get? {c : Changers σ α} {mode : ChangeMode}
    {changer : Changer σ α} (h : c.get? mode = some changer) :
    changer.isWithoutValue = !mode.takesValue := by
  cases mode <;> obtain ⟨change, -, rfl⟩ := Option.map_eq_some_iff.mp h <;> rfl

namespace View

/-- A change takes a value, and the view has no way back for it. -/
def Blocks (view : View σ α) (mode : ChangeMode) : Prop :=
  mode.takesValue = true ∧ view.hasReverse = false

theorem written?_of_no_way_back {view : View σ α} (h : view.hasReverse = false) (s : σ)
    (value : Value α) : view.written? s value = none := by
  cases view with
  | direct p => simp [hasReverse] at h
  | bridged types contextType valueType source forward reverse =>
      have hreverse : reverse = none := by simpa [hasReverse] using h
      simp [hreverse]

theorem hasChanger_eq (view : View σ α) (mode : ChangeMode) :
    view.hasChanger mode = (view.changer? mode).isSome := by
  simp [hasChanger, changer?_eq]

/-- A blocked change is offered where the provider offers it, and never has an effect. -/
theorem Blocks.apply_eq {view : View σ α} {mode : ChangeMode} (h : view.Blocks mode)
    {changer : Changer σ α} (hchanger : view.changer? mode = some changer) (context : Value α)
    (given : Option (Value α)) (s : σ) : (changer.apply context given s).2 = s := by
  rw [changer?_eq] at hchanger
  obtain ⟨registered, hregistered, rfl⟩ := Option.map_eq_some_iff.mp hchanger
  have hshape := Changers.isWithoutValue_of_get? hregistered
  cases registered with
  | withoutValue change => simp [Changer.isWithoutValue, h.1] at hshape
  | withValue change =>
      cases given with
      | none => rfl
      | some value => simp [through, Changer.apply, written?_of_no_way_back h.2]

variable {types : TypeSystem σ α} {context wanted : TypeId} {p : Provider σ α} {view : View σ α}

theorem BuiltOn.hasReverse_eq_false_iff (h : view.BuiltOn types context wanted p) :
    view.hasReverse = false ↔
      view.isBridged = true ∧ types.between? wanted p.valueType = none := by
  cases h with
  | direct fits => simp [hasReverse, isBridged]
  | bridged turns => simp [hasReverse, isBridged]

end View

namespace Registry

variable {r : Registry σ α}

/-! ## Supported changes -/

/-- Through a candidate, a supported change is blocked exactly if it takes a value, and the
candidate is a bridge to a requested type from which no conversion leads back. -/
theorem supported_change_blocked_iff (reachable : r.Reachable) (request : Request)
    (mode : ChangeMode) (supported : (r.resolve request).1.supportsChange mode = true) :
    ∀ view ∈ (r.resolve request).1.candidates,
      ∃ changer, view.changer? mode = some changer ∧
        (view.Blocks mode ↔ mode.takesValue = true ∧ view.isBridged = true ∧
          ∃ valueType, request.query = .type valueType ∧
            r.types.between? valueType view.provider.valueType = none) ∧
        (view.Blocks mode → ∀ context given s, (changer.apply context given s).2 = s) := by
  intro view hview
  have hoffered : (view.changer? mode).isSome = true := by
    rw [← View.hasChanger_eq]
    exact List.all_eq_true.mp (Bool.and_eq_true_iff.mp supported).2 view hview
  obtain ⟨changer, hchanger⟩ := Option.isSome_iff_exists.mp hoffered
  refine ⟨changer, hchanger, ?_, fun h => h.apply_eq hchanger⟩
  obtain ⟨hp, hbuilt⟩ := candidate_builtOn reachable hview
  obtain ⟨time, hp⟩ := mem_elements.mp hp
  have known := (reachable.typesKnown time _ hp).2
  rw [View.Blocks, hbuilt.hasReverse_eq_false_iff]
  cases hquery : request.query with
  | identifier text =>
      have hback : r.types.between? view.provider.valueType view.provider.valueType =
          some .identity := TypeSystem.between?_of_subsumes (TypeTree.subsumes_self known)
      simp [Query.wanted, hback]
  | type valueType => simp [Query.wanted]

/-- A message that is found as a number cannot be set to one, though setting is supported. -/
theorem message_set_supported_but_blocked :
    let request : Request := ⟨arrays, .type numbers, .now, .default⟩
    (messages.resolve request).1.supportsChange .set = true ∧
      ∃ view ∈ (messages.resolve request).1.candidates, view.Blocks .set := by
  intro request
  have supported : (messages.resolve request).1.supportsChange .set = true := by decide +kernel
  have hfound : (messages.resolve request).1.candidates.any (fun view => view.isBridged &&
      (messages.types.between? numbers view.provider.valueType).isNone) = true := by
    decide +kernel
  obtain ⟨view, hview, hview'⟩ := List.any_eq_true.mp hfound
  obtain ⟨hbridged, hnone⟩ := Bool.and_eq_true_iff.mp hview'
  obtain ⟨changer, -, hblocked, -⟩ :=
    supported_change_blocked_iff (ofProviders_reachable _ _) request .set supported view hview
  refine ⟨supported, view, hview, hblocked.mpr ⟨rfl, hbridged, numbers, rfl, ?_⟩⟩
  exact Option.isNone_iff_eq_none.mp hnone

/-- Support does not tell that a change gets through all candidates. -/
theorem not_all_supported_changes_get_through :
    ¬ ∀ (r : Registry Unit Unit) (request : Request) (mode : ChangeMode), r.Reachable →
      (r.resolve request).1.supportsChange mode = true →
        ∀ view ∈ (r.resolve request).1.candidates, ¬ view.Blocks mode := by
  intro h
  let request : Request := ⟨arrays, .type numbers, .now, .default⟩
  have supported : (messages.resolve request).1.supportsChange .set = true := by decide +kernel
  have hfound : (messages.resolve request).1.candidates.any (fun view => !view.hasReverse) =
      true := by decide +kernel
  obtain ⟨view, hview, hreverse⟩ := List.any_eq_true.mp hfound
  exact h messages request .set (ofProviders_reachable _ _) supported view hview
    ⟨rfl, by simpa using hreverse⟩

end Registry

end Provision
