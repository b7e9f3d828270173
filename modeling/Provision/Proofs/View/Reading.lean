import Provision.Proofs.Stage.Building

/-! # What is invoked to read a view

Reading invokes the provider's getter and the bridges' conversions. Where these keep to their types,
none is given a value of another type than its own, and what is read is of the view's type. -/

namespace Provision

variable {σ α : Type}

/-! ## Invocations -/

namespace View

/-- What is invoked to read a view off a context in a state. -/
def invocations (s : σ) (context : Value α) (view : View σ α) : List (Invocation σ α) :=
  (view.readBy (·.result s) context).2

theorem invocations_direct (s : σ) (context : Value α) (p : Provider σ α) :
    (direct p).invocations s context = [.getter p context] := rfl

theorem invocations_bridged (s : σ) (context : Value α) (types : TypeSystem σ α)
    (contextType valueType : TypeId) (source : View σ α) (forward : Converter σ α)
    (reverse : Option (Converter σ α)) :
    (bridged types contextType valueType source forward reverse).invocations s context =
      if context.isA types.tree source.contextType then
        source.invocations s context ++
          ((source.get s context).map (.converter forward)).toList
      else [] := by
  simp only [invocations, get, readBy]
  split
  · cases source.readBy (·.result s) context with
    | mk read made => cases read <;> simp
  · rfl

end View

/-! ## Keeping to types -/

/-- A getter gives values of its value type in contexts of its context type. -/
def Provider.KeepsTypes (p : Provider σ α) (t : TypeTree) : Prop :=
  ∀ s context value, context.isA t p.contextType = true → p.getter s context = some value →
    value.isA t p.valueType = true

/-- Every registered conversion gives values of its target for values of its source. -/
def Converters.KeepTypes (c : Converters σ α) (t : TypeTree) : Prop :=
  ∀ entry ∈ c.entries, ∀ s value turned, value.isA t entry.1.1 = true →
    entry.2 s value = some turned → turned.isA t entry.1.2 = true

/-- Conversions give values of their target for values of their source: those that were given for a
pair of types for these, any other for the types that it is found for. -/
def Conversion.KeepsTypes (t : TypeTree) : Conversion σ α → Prop
  | .registered converters => converters.KeepTypes t
  | .custom find? => ∀ source target f, find? t source target = some f → ∀ s value turned,
      value.isA t source = true → f s value = some turned → turned.isA t target = true

theorem Turns.domain_subsumes {types : TypeSystem σ α} {source target domain : TypeId}
    {f : Converter σ α} (h : Turns types source target domain f) (known : types.tree.Known source) :
    types.tree.subsumes domain source = true := by
  cases h with
  | widening wider => exact TypeTree.subsumes_self known
  | narrowing narrower => exact TypeTree.subsumes_self known
  | registered conversion chosen apart => exact (Converters.choice?_eq_some chosen).2.1
  | custom conversion found apart => exact TypeTree.subsumes_self known

theorem Turns.isA_target {types : TypeSystem σ α} {source target domain : TypeId}
    {f : Converter σ α} (h : Turns types source target domain f)
    (conversion : types.conversion.KeepsTypes types.tree) {s : σ} {value turned : Value α}
    (hvalue : value.isA types.tree source = true) (hturned : f s value = some turned) :
    turned.isA types.tree target = true := by
  cases h with
  | widening wider =>
      obtain rfl := Option.some.inj hturned
      exact Value.isA_of_subsumes hvalue wider
  | narrowing narrower =>
      unfold Stage.narrow at hturned
      split at hturned
      · rename_i hfits
        obtain rfl := Option.some.inj hturned
        exact hfits
      · simp at hturned
  | registered hconversion chosen apart =>
      rw [hconversion] at conversion
      obtain ⟨hentry, hsource, htarget⟩ := Converters.choice?_eq_some chosen
      have hdomain := Value.isA_of_subsumes hvalue hsource
      exact Value.isA_of_subsumes (conversion _ hentry s value turned hdomain hturned) htarget
  | custom hconversion found apart =>
      rw [hconversion] at conversion
      exact conversion _ _ _ found s value turned hvalue hturned

/-! ## Reading within types -/

namespace View

/-- Reading a view off a context invokes the provider's getter and a way to turn its values alone,
each on a value of its own type, and gives a value of the view's type if any. -/
structure ReadsWithin (types : TypeSystem σ α) (s : σ) (context : Value α) (view : View σ α) :
    Prop where
  getter : ∀ p given, .getter p given ∈ view.invocations s context →
    p = view.provider ∧ given.isA types.tree p.contextType = true
  converter : ∀ f given, .converter f given ∈ view.invocations s context →
    ∃ domain, Turns types view.provider.valueType view.valueType domain f ∧
      given.isA types.tree domain = true
  value : ∀ value, view.get s context = some value → value.isA types.tree view.valueType = true

variable {types : TypeSystem σ α} {context wanted domain : TypeId} {p : Provider σ α}
  {forward : Converter σ α} {reverse : Option (Converter σ α)} {s : σ} {occurrence : Value α}

theorem readsWithin_of_direct (getter : p.KeepsTypes types.tree)
    (hsource : occurrence.isA types.tree p.contextType = true) :
    (direct p).ReadsWithin types s occurrence where
  getter q given hinvoked := by
    obtain ⟨rfl, rfl⟩ : q = p ∧ given = occurrence := by
      simpa [invocations_direct] using hinvoked
    exact ⟨rfl, hsource⟩
  converter f given hinvoked := by simp [invocations_direct] at hinvoked
  value value hvalue := getter s occurrence value hsource hvalue

theorem readsWithin_of_bridged (getter : p.KeepsTypes types.tree)
    (conversion : types.conversion.KeepsTypes types.tree)
    (turns : Turns types p.valueType wanted domain forward) :
    (bridged types context wanted (direct p) forward reverse).ReadsWithin types s occurrence := by
  by_cases hsource : occurrence.isA types.tree p.contextType = true
  · refine ⟨?_, ?_, ?_⟩
    · intro q given hinvoked
      obtain ⟨rfl, rfl⟩ : q = p ∧ given = occurrence := by
        simpa [invocations_bridged, invocations_direct, View.contextType, hsource] using hinvoked
      exact ⟨rfl, hsource⟩
    · intro f given hinvoked
      obtain ⟨read, hread, rfl, rfl⟩ :
          ∃ read, p.getter s occurrence = some read ∧ forward = f ∧ read = given := by
        simpa [invocations_bridged, invocations_direct, View.contextType, get_direct, hsource,
          and_comm] using hinvoked
      have hvalue := getter s occurrence read hsource hread
      have known := (TypeTree.known_of_subsumes hvalue).1
      exact ⟨domain, turns, Value.isA_of_subsumes hvalue (turns.domain_subsumes known)⟩
    · intro value hvalue
      rw [get_bridged, View.contextType, if_pos hsource, get_direct] at hvalue
      obtain ⟨read, hread, hforward⟩ := Option.bind_eq_some_iff.mp hvalue
      exact turns.isA_target conversion (getter s occurrence read hsource hread) hforward
  · refine ⟨?_, ?_, ?_⟩
    · simp [invocations_bridged, View.contextType, hsource]
    · simp [invocations_bridged, View.contextType, hsource]
    · simp [get_bridged, View.contextType, hsource]

/-- A view that a search builds is read within its types off contexts that it was built for. -/
theorem BuiltOn.readsWithin {view : View σ α} (h : view.BuiltOn types context wanted p)
    (getter : p.KeepsTypes types.tree) (conversion : types.conversion.KeepsTypes types.tree)
    (hcontext : occurrence.isA types.tree context = true) :
    view.ReadsWithin types s occurrence := by
  cases h with
  | direct fits => exact readsWithin_of_direct getter (Value.isA_of_subsumes hcontext fits.1)
  | bridged turns => exact readsWithin_of_bridged getter conversion turns

end View

end Provision
