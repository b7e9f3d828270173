import Provision.Proofs.Registry.Contents
import Provision.Proofs.TypeTree.Order

/-! # Types that registered providers refer to

A registry looks at the context and value type of a provider alone. A provider that was made for
other types is let in with exclusions that are unknown, which then cover no context. -/

namespace Provision

variable {σ α : Type}

/-! ## References -/

/-- All types that a provider speaks of. -/
def Provider.references (p : Provider σ α) : List TypeId :=
  p.contextType :: p.valueType :: p.excluded

theorem Draft.references_of_build {d : Draft σ α} {types : TypeSystem σ α} {p : Provider σ α}
    (h : d.build types = .ok p) :
    p.references = d.mentioned ∧ ∀ id ∈ d.mentioned, types.tree.Known id := by
  unfold build at h
  split at h
  · simp at h
  · rename_i known
    split at h
    · simp at h
    · split at h
      · simp at h
      · obtain rfl := Except.ok.inj h
        refine ⟨rfl, ?_⟩
        simpa using known

/-- An exclusion that is unknown covers no context. -/
theorem Provider.validate_eq_of_known_exclusions (p : Provider σ α) (t : TypeTree)
    (context : TypeId) :
    p.validate t context =
      { p with excluded := p.excluded.filter fun e => decide (t.Known e) }.validate t context := by
  have hfind : (p.excluded.filter fun e => decide (t.Known e)).find?
      (fun e => t.subsumes e context) = p.excluded.find? fun e => t.subsumes e context := by
    rw [List.find?_filter]
    congr 1
    funext e
    cases covers : t.subsumes e context with
    | true => simp [(TypeTree.known_of_subsumes covers).1]
    | false => simp
  simp only [validate, hfind]

namespace Registry

variable {r : Registry σ α} {p : Provider σ α}

/-! ## Registration -/

theorem register_unknownType_iff {id : TypeId} :
    (r.register p).1 = .error (.unknownType id) ↔
      ¬ r.types.tree.Known id ∧
        (id = p.contextType ∨ id = p.valueType ∧ r.types.tree.Known p.contextType) := by
  rw [register_eq]
  by_cases context : r.types.tree.Known p.contextType
  · by_cases value : r.types.tree.Known p.valueType
    · have apart : ¬ r.types.tree.Known id → ¬ id = p.contextType ∧ ¬ id = p.valueType :=
        fun unknown => ⟨fun h => unknown (h ▸ context), fun h => unknown (h ▸ value)⟩
      cases r.isRegistered p <;> simpa [context, value] using apart
    · simp only [context, value, not_true_eq_false, not_false_eq_true, if_true, if_false,
        Except.error.injEq, Error.unknownType.injEq, and_true]
      constructor
      · rintro rfl
        exact ⟨value, .inr rfl⟩
      · rintro ⟨unknown, rfl | rfl⟩
        · exact absurd context unknown
        · rfl
  · simp only [context, not_false_eq_true, if_true, Except.error.injEq, Error.unknownType.injEq,
      and_false, or_false]
    constructor
    · rintro rfl
      exact ⟨context, rfl⟩
    · rintro ⟨-, rfl⟩
      rfl

/-! ## Foreign exclusions -/

/-- A type that is unknown to a registry is referred to by its providers as an exclusion alone.
Registration refuses unknown context and value types, naming the first, and looks at no exclusion.
Unknown exclusions have no effect, and a provider that was made for types that are all known has
none. -/
theorem unknown_references_are_exclusions (reachable : r.Reachable) :
    (∀ p ∈ r.elements, ∀ id ∈ p.references, ¬ r.types.tree.Known id →
      id ∈ p.excluded ∧ id ≠ p.contextType ∧ id ≠ p.valueType) ∧
    (∀ (p : Provider σ α) (id : TypeId), (r.register p).1 = .error (.unknownType id) ↔
      ¬ r.types.tree.Known id ∧
        (id = p.contextType ∨ id = p.valueType ∧ r.types.tree.Known p.contextType)) ∧
    (∀ p : Provider σ α, (r.register p).1 = .ok p ↔
      (r.types.tree.Known p.contextType ∧ r.types.tree.Known p.valueType) ∧
        r.isRegistered p = false) ∧
    (∀ (p : Provider σ α) (context : TypeId), p.validate r.types.tree context =
      { p with excluded := p.excluded.filter fun e => decide (r.types.tree.Known e) }.validate
        r.types.tree context) ∧
    ∀ (d : Draft σ α) (types : TypeSystem σ α) (p : Provider σ α), d.build types = .ok p →
      (∀ id, types.tree.Known id → r.types.tree.Known id) →
        ∀ id ∈ p.references, r.types.tree.Known id := by
  refine ⟨?_, fun p id => register_unknownType_iff, fun p => register_eq_ok_iff,
    fun p context => p.validate_eq_of_known_exclusions _ _, ?_⟩
  · intro p hp id hid unknown
    obtain ⟨time, hp⟩ := mem_elements.mp hp
    obtain ⟨context, value⟩ := reachable.typesKnown time p hp
    have hcontext : id ≠ p.contextType := fun heq => unknown (heq ▸ context)
    have hvalue : id ≠ p.valueType := fun heq => unknown (heq ▸ value)
    refine ⟨?_, hcontext, hvalue⟩
    simpa [Provider.references, hcontext, hvalue] using hid
  · intro d types p built grown id hid
    obtain ⟨hreferences, known⟩ := Draft.references_of_build built
    exact grown id (known id (hreferences ▸ hid))

/-- Provides everything in arrays, but not in texts, which are no type of `ofArrays`. -/
def foreignDraft : Draft Unit Unit where
  contextType := arrays
  valueType := .root
  patterns := some []
  getter := some fun _ _ => none
  excluded := [texts]

/-- A provider that was made where texts are known is registered where they are not. -/
theorem texts_are_foreign_exclusion :
    ∃ p grown, foreignDraft.build oneWay = .ok p ∧ (ofArrays []).register p = (.ok p, grown) ∧
      p ∈ grown.elements ∧ texts ∈ p.references ∧ ¬ grown.types.tree.Known texts ∧
      texts ∈ p.excluded ∧ texts ≠ p.contextType ∧ texts ≠ p.valueType := by
  have hbuilt : (foreignDraft.build oneWay).toOption.isSome = true := by decide +kernel
  cases built : foreignDraft.build oneWay with
  | error e => simp [built, Except.toOption] at hbuilt
  | ok p =>
      obtain ⟨hreferences, -⟩ := Draft.references_of_build built
      obtain ⟨hcontext, hvalue, hexcluded⟩ : p.contextType = arrays ∧ p.valueType = .root ∧
          p.excluded = [texts] := by
        simpa [Provider.references, Draft.mentioned, foreignDraft] using hreferences
      have known : (ofArrays []).types.tree.Known arrays ∧
          (ofArrays []).types.tree.Known .root := by decide +kernel
      have free : (ofArrays []).isRegistered p = false := by
        simp [isRegistered, ofArrays, run, bucket_new]
      let grown := ((ofArrays []).register p).2
      have registered : (ofArrays []).register p = (.ok p, grown) :=
        Prod.ext (register_eq_ok_iff.mpr ⟨hcontext ▸ hvalue ▸ known, free⟩) rfl
      have hp : p ∈ grown.elements := mem_elements_of_register registered
      have hid : texts ∈ p.references := by simp [Provider.references, hexcluded]
      have unknown : ¬ grown.types.tree.Known texts := by
        rw [(register_changed _ p).types_eq]
        decide +kernel
      obtain ⟨hforeign, -⟩ :=
        unknown_references_are_exclusions ((ofArrays_reachable []).register registered)
      exact ⟨p, grown, rfl, registered, hp, hid, unknown, hforeign p hp texts hid unknown⟩

/-- Registration does not see to it that all types are known. -/
theorem not_all_references_known :
    ¬ ∀ (r : Registry Unit Unit), r.Reachable →
      (∀ p ∈ r.elements, ∀ id ∈ p.references, r.types.tree.Known id) ∧
      ∀ p : Provider Unit Unit, (∃ id ∈ p.references, ¬ r.types.tree.Known id) →
        ∃ id, (r.register p).1 = .error (.unknownType id) := by
  intro h
  let r := ofArrays [{ (default : Provider Unit Unit) with excluded := [texts] }]
  obtain ⟨hknown, -⟩ := h r (ofArrays_reachable _)
  have hforeign : (r.elements.any fun p => p.references.any fun id =>
      !decide (r.types.tree.Known id)) = true := by decide +kernel
  obtain ⟨p, hp, hany⟩ := List.any_eq_true.mp hforeign
  obtain ⟨id, hid, unknown⟩ := List.any_eq_true.mp hany
  simp [hknown p hp id hid] at unknown

end Registry

end Provision
