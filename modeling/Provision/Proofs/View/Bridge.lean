import Provision.Proofs.Converters
import Provision.View

/-! # Views of one provider

A provider that fits is shown as it is. Any other is shown across one bridge, as exactly the types
that are asked for. -/

namespace Provision

variable {σ α : Type}

/-! ## Conversions -/

namespace TypeSystem

variable {types : TypeSystem σ α} {source target : TypeId}

theorem between?_of_subsumes (h : types.tree.subsumes target source = true) :
    types.between? source target = some .identity := if_pos h

theorem between?_of_not_subsumes (h : types.tree.subsumes target source = false) :
    types.between? source target = types.converter? source target := by
  simp [between?, h]

end TypeSystem

/-! ## Fitting and bridging -/

/-- A provider can be handed out as it is: it serves the context, and its values are of the type. -/
def Provider.Fits (p : Provider σ α) (t : TypeTree) (context valueType : TypeId) : Prop :=
  t.subsumes p.contextType context = true ∧ t.subsumes valueType p.valueType = true

namespace View

/-- A view shows a provider as types: itself if it fits, else across one bridge. -/
inductive Shows (types : TypeSystem σ α) (context valueType : TypeId) (p : Provider σ α) :
    View σ α → Prop
  | direct (fits : p.Fits types.tree context valueType) :
      Shows types context valueType p (.direct p)
  | bridged (unfit : ¬ p.Fits types.tree context valueType)
      (forward : Converter σ α) (reverse : Option (Converter σ α)) :
      Shows types context valueType p
        (.bridged types context valueType (.direct p) forward reverse)

/-- All that converting a provider can give: itself if it fits, else a bridge, with the conversions
that are found for both ways. -/
theorem convert?_direct_eq_some {types : TypeSystem σ α} {context valueType : TypeId}
    {p : Provider σ α} {view : View σ α}
    (h : (View.direct p).convert? types context valueType = some view) :
    p.Fits types.tree context valueType ∧ view = .direct p ∨
      ¬ p.Fits types.tree context valueType ∧
        ∃ forward, types.between? p.valueType valueType = some forward ∧
          view = .bridged types context valueType (.direct p) forward
            (types.between? valueType p.valueType) := by
  simp only [convert?, adapt?] at h
  split at h
  · rename_i hfits
    refine .inl ⟨?_, (Option.some.inj h).symm⟩
    simpa [Provider.Fits, View.contextType, View.valueType] using hfits
  · rename_i hunfit
    obtain ⟨forward, hforward, rfl⟩ := Option.map_eq_some_iff.mp h
    refine .inr ⟨?_, forward, hforward, rfl⟩
    simpa [Provider.Fits, View.contextType, View.valueType] using hunfit

theorem shows_of_convert? {types : TypeSystem σ α} {context valueType : TypeId}
    {p : Provider σ α} {view : View σ α}
    (h : (View.direct p).convert? types context valueType = some view) :
    Shows types context valueType p view := by
  rcases convert?_direct_eq_some h with ⟨fits, rfl⟩ | ⟨unfit, forward, hforward, rfl⟩
  · exact .direct fits
  · exact .bridged unfit forward _

theorem isSome_convert?_of_subsumes {types : TypeSystem σ α} {context valueType : TypeId}
    {p : Provider σ α} (h : types.tree.subsumes valueType p.valueType = true) :
    ((View.direct p).convert? types context valueType).isSome = true := by
  have hforward := TypeSystem.between?_of_subsumes h
  simp only [convert?, adapt?]
  split
  · rfl
  · simp [View.valueType, hforward]

variable {types : TypeSystem σ α} {context wanted : TypeId} {p : Provider σ α} {view : View σ α}

namespace Shows

theorem provider_eq (h : Shows types context wanted p view) : view.provider = p := by
  cases h <;> rfl

theorem subsumes_context (h : Shows types context wanted p view)
    (known : types.tree.Known context) :
    types.tree.subsumes view.contextType context = true := by
  cases h with
  | direct fits => exact fits.1
  | bridged unfit forward reverse => exact TypeTree.subsumes_self known

theorem suits_value (h : Shows types context wanted p view) :
    view.valueType = wanted ∨ types.tree.subsumes wanted view.valueType = true := by
  cases h with
  | direct fits => exact .inr fits.2
  | bridged unfit forward reverse => exact .inl rfl

theorem eq_direct_iff (h : Shows types context wanted p view) :
    view = .direct p ↔ p.Fits types.tree context wanted := by
  cases h with
  | direct fits => simp [fits]
  | bridged unfit forward reverse => simp [unfit]

theorem eq_bridged (h : Shows types context wanted p view) (hne : view ≠ .direct p) :
    ∃ forward reverse,
      view = .bridged types context wanted (.direct p) forward reverse := by
  cases h with
  | direct fits => exact absurd rfl hne
  | bridged unfit forward reverse => exact ⟨forward, reverse, rfl⟩

end Shows

end View

end Provision
