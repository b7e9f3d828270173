import Provision.Proofs.View.Bridge
import Provision.Stage

/-! # What the stages of a search build

Every stage shows a provider as it is, where it fits, or across one bridge. What is read is passed
on as it is, as far as it fits, or by the conversion that is found. What is written goes back by the
conversion that is found for the way back. -/

namespace Provision

variable {σ α : Type}

/-! ## Ways to turn values -/

/-- How values of one type are turned to be shown as another, with the type of values that this is
for. -/
inductive Turns (types : TypeSystem σ α) (source target : TypeId) : TypeId → Converter σ α → Prop
  | widening (wider : types.tree.subsumes target source = true) :
      Turns types source target source .identity
  | narrowing (narrower : types.tree.subsumes source target = true) :
      Turns types source target source (Stage.narrow types target)
  | registered {converters : Converters σ α} {entry : (TypeId × TypeId) × Converter σ α}
      (conversion : types.conversion = .registered converters)
      (chosen : converters.choice? types.tree source target = some entry)
      (apart : types.tree.subsumes target source = false) :
      Turns types source target entry.1.1 entry.2
  | custom {find? : TypeTree → TypeId → TypeId → Option (Converter σ α)} {f : Converter σ α}
      (conversion : types.conversion = .custom find?)
      (found : find? types.tree source target = some f)
      (apart : types.tree.subsumes target source = false) :
      Turns types source target source f

theorem TypeSystem.turns_of_between? {types : TypeSystem σ α} {source target : TypeId}
    {f : Converter σ α} (h : types.between? source target = some f) :
    ∃ domain, Turns types source target domain f := by
  cases hwider : types.tree.subsumes target source with
  | true =>
      obtain rfl := Option.some.inj ((between?_of_subsumes hwider).symm.trans h)
      exact ⟨source, .widening hwider⟩
  | false =>
      rw [between?_of_not_subsumes hwider, converter?] at h
      cases hconversion : types.conversion with
      | registered converters =>
          simp only [hconversion, Conversion.find?, Converters.find?_eq, hwider] at h
          obtain ⟨entry, hchosen, rfl⟩ := Option.map_eq_some_iff.mp h
          exact ⟨entry.1.1, .registered hconversion hchosen hwider⟩
      | custom find? =>
          rw [hconversion, Conversion.find?] at h
          exact ⟨source, .custom hconversion h hwider⟩

/-! ## Building a view -/

/-- The view that a search builds on a provider to show it as types: itself if it fits, else one
bridge with a way forward, and with the way back that is found. -/
inductive View.BuiltOn (types : TypeSystem σ α) (context wanted : TypeId) (p : Provider σ α) :
    View σ α → Prop
  | direct (fits : p.Fits types.tree context wanted) : BuiltOn types context wanted p (.direct p)
  | bridged {domain : TypeId} {forward : Converter σ α}
      (turns : Turns types p.valueType wanted domain forward) :
      BuiltOn types context wanted p
        (.bridged types context wanted (.direct p) forward (types.between? wanted p.valueType))

theorem View.builtOn_of_convert? {types : TypeSystem σ α} {context wanted : TypeId}
    {p : Provider σ α} {view : View σ α}
    (h : (View.direct p).convert? types context wanted = some view) :
    view.BuiltOn types context wanted p := by
  rcases convert?_direct_eq_some h with ⟨fits, rfl⟩ | ⟨-, forward, hforward, rfl⟩
  · exact .direct fits
  · obtain ⟨domain, hturns⟩ := TypeSystem.turns_of_between? hforward
    exact .bridged hturns

theorem View.BuiltOn.provider_eq {types : TypeSystem σ α} {context wanted : TypeId}
    {p : Provider σ α} {view : View σ α} (h : view.BuiltOn types context wanted p) :
    view.provider = p := by
  cases h <;> rfl

theorem View.BuiltOn.isA_wanted {types : TypeSystem σ α} {context wanted : TypeId}
    {p : Provider σ α} {view : View σ α} (h : view.BuiltOn types context wanted p)
    {value : Value α} (hvalue : value.isA types.tree view.valueType = true) :
    value.isA types.tree wanted = true := by
  cases h with
  | direct fits => exact Value.isA_of_subsumes hvalue fits.2
  | bridged turns => exact hvalue

namespace Stage

/-! ## The stages -/

variable {types : TypeSystem σ α} {context valueType : TypeId} {p : Provider σ α} {view : View σ α}

theorem exact_builtOn (known : types.tree.Known p.valueType)
    (hadmits : (exact types context valueType).admits p = true)
    (hview : (exact types context valueType).view? p = some view) :
    view.BuiltOn types context valueType p := by
  obtain ⟨hcontext, rfl⟩ : types.tree.subsumes p.contextType context = true ∧
      p.valueType = valueType := by
    simpa [exact] using hadmits
  obtain rfl := Option.some.inj hview
  exact .direct ⟨hcontext, TypeTree.subsumes_self known⟩

theorem narrowing_builtOn (hadmits : (narrowing types context valueType).admits p = true)
    (hview : (narrowing types context valueType).view? p = some view) :
    view.BuiltOn types context valueType p := by
  obtain ⟨-, hvalue⟩ : types.tree.related p.contextType context = true ∧
      types.tree.subsumes p.valueType valueType = true := by
    simpa [narrowing] using hadmits
  obtain rfl := Option.some.inj hview
  exact .bridged (.narrowing hvalue)

end Stage

end Provision
