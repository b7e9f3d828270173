import Provision.Proofs.View.Bridge
import Provision.Proofs.View.Nesting

/-! # Converting what was converted

A view that was converted is converted again from where it started. However often a provider is
converted, nothing counts but what it is converted to last. -/

namespace Provision

/-- What a view is to be shown as: a context type and a value type, by the types that it is
converted with. -/
structure Target (σ α : Type) where
  types : TypeSystem σ α
  contextType : TypeId
  valueType : TypeId

namespace View

variable {σ α : Type}

/-! ## Where conversions start -/

/-- What a conversion of a view starts from. -/
def base : View σ α → View σ α
  | .direct p => .direct p
  | .bridged _ _ _ source _ _ => source

def convertTo? (view : View σ α) (target : Target σ α) : Option (View σ α) :=
  view.convert? target.types target.contextType target.valueType

def convertThrough? (view : View σ α) (targets : List (Target σ α)) : Option (View σ α) :=
  targets.foldlM convertTo? view

section

variable {view next : View σ α} {p : Provider σ α} {target : Target σ α}
  {targets : List (Target σ α)}

theorem convertTo?_eq_of_base (h : view.base = .direct p) (target : Target σ α) :
    view.convertTo? target = (direct p).convertTo? target := by
  cases view with
  | direct q =>
      obtain rfl := View.direct.inj h
      rfl
  | bridged types contextType valueType source forward reverse =>
      obtain rfl : source = .direct p := h
      rfl

theorem base_of_convertTo? (h : (direct p).convertTo? target = some next) :
    next.base = .direct p ∧ next.bridges.length ≤ 1 := by
  rcases convert?_direct_eq_some h with ⟨-, rfl⟩ | ⟨-, forward, -, rfl⟩
  · exact ⟨rfl, Nat.zero_le 1⟩
  · exact ⟨rfl, Nat.le_refl 1⟩

theorem base_of_convertThrough? (hbase : view.base = .direct p)
    (h : view.convertThrough? targets = some next) : next.base = .direct p := by
  induction targets generalizing view with
  | nil =>
      obtain rfl := Option.some.inj h
      exact hbase
  | cons target targets ih =>
      rw [convertThrough?, List.foldlM_cons] at h
      obtain ⟨converted, hconverted, hrest⟩ := Option.bind_eq_some_iff.mp h
      rw [convertTo?_eq_of_base hbase] at hconverted
      exact ih (base_of_convertTo? hconverted).1 hrest

theorem convertThrough?_concat (view : View σ α) (targets : List (Target σ α))
    (last : Target σ α) :
    view.convertThrough? (targets ++ [last]) =
      (view.convertThrough? targets).bind (·.convertTo? last) := by
  simp [convertThrough?, List.foldlM_append, bind]

theorem convertThrough?_last {last : Target σ α}
    (h : (direct p).convertThrough? (targets ++ [last]) = some view) :
    (direct p).convertTo? last = some view := by
  rw [convertThrough?_concat] at h
  obtain ⟨before, hbefore, hlast⟩ := Option.bind_eq_some_iff.mp h
  rwa [convertTo?_eq_of_base (base_of_convertThrough? rfl hbefore)] at hlast

theorem convertTo?_of_fits (fits : p.Fits target.types.tree target.contextType target.valueType) :
    (direct p).convertTo? target = some (.direct p) := by
  have hfits : target.types.tree.subsumes p.contextType target.contextType &&
      target.types.tree.subsumes target.valueType p.valueType :=
    Bool.and_eq_true_iff.mpr fits
  exact if_pos hfits

end

/-- A provider that was converted any number of times is as if it had been converted once, to the
last target: it is equal, reads the same off all contexts and offers the same changes. It is across
one bridge at most, and is the provider itself again when it is converted to types that this fits. -/
theorem reconverted_as_once (p : Provider σ α) (targets : List (Target σ α)) (last : Target σ α)
    (view : View σ α) (converted : (direct p).convertThrough? (targets ++ [last]) = some view) :
    (∃ once, (direct p).convertTo? last = some once ∧ (view == once) = true ∧
      (∀ s context, view.get s context = once.get s context) ∧
      ∀ mode, view.changer? mode = once.changer? mode) ∧
    view.bridges.length ≤ 1 ∧
    ∀ target : Target σ α, p.Fits target.types.tree target.contextType target.valueType →
      view.convertTo? target = some (.direct p) := by
  have honce := convertThrough?_last converted
  obtain ⟨hbase, hbridges⟩ := base_of_convertTo? honce
  refine ⟨⟨view, honce, beq_self_eq_true view, fun _ _ => rfl, fun _ => rfl⟩, hbridges, ?_⟩
  intro target fits
  rw [convertTo?_eq_of_base hbase]
  exact convertTo?_of_fits fits

/-- Types by which everything can be made an array. -/
def arrayMaking : TypeSystem (List Int) Int :=
  { arrayTypes with
    conversion := .registered <|
      ({} : Converters (List Int) Int).register .root (.ofNat 1) fun _ v =>
        some ⟨.ofNat 1, v.payload⟩ }

/-- The gauge is shown as arrays of everything across one bridge, whatever it was shown as before,
and can be had back. -/
theorem gauge_as_arrays_and_back :
    let asArrays : Target (List Int) Int := ⟨arrayMaking, .root, .ofNat 1⟩
    let everywhere : Target (List Int) Int := ⟨arrayMaking, .root, .root⟩
    ∃ view once, (direct gauge).convertThrough? [asArrays, everywhere, asArrays] = some view ∧
      (direct gauge).convertTo? asArrays = some once ∧ (view == once) = true ∧
      view.isBridged = true ∧ view.bridges.length ≤ 1 ∧
      view.convertTo? ⟨arrayMaking, .ofNat 1, .root⟩ = some (.direct gauge) := by
  intro asArrays everywhere
  have hbridged : ((direct gauge).convertThrough? [asArrays, everywhere, asArrays]).any
      (·.isBridged) = true := by decide +kernel
  obtain ⟨view, hview, hview'⟩ := (Option.any_eq_true _ _).mp hbridged
  obtain ⟨⟨once, honce, hequal, -⟩, hbridges, hback⟩ :=
    reconverted_as_once gauge [asArrays, everywhere] asArrays view hview
  exact ⟨view, once, hview, honce, hequal, hview', hbridges,
    hback ⟨arrayMaking, .ofNat 1, .root⟩ ⟨by decide +kernel, by decide +kernel⟩⟩

end View

end Provision
