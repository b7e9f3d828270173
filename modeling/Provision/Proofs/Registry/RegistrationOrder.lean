import Provision.Proofs.Registry.Refusal
import Provision.Proofs.Registry.Slots
import Provision.Proofs.Stage.Permuted

/-! # The order of registration

Providers that are told apart by slot can be registered in any order. What a search finds and
whether it is refused do not depend on it. -/

namespace Provision

variable {σ α : Type}

/-- What providers of all times are told apart by. -/
def Provider.place (p : Provider σ α) : Time × TypeId × TypeId × List String := (p.time, p.slot)

theorem Buckets.toList_modify_append (b : Buckets σ α) (time : Time) (p : Provider σ α) :
    (b.modify time (· ++ [p])).toList.Perm (p :: b.toList) := by
  cases time with
  | past => simp [modify, toList]
  | now =>
      have middle : (b.past ++ b.now ++ p :: b.future).Perm (p :: (b.past ++ b.now ++ b.future)) :=
        List.perm_middle
      simpa [modify, toList] using middle
  | future =>
      simpa [modify, toList] using List.perm_append_singleton p (b.past ++ b.now ++ b.future)

namespace Registry

variable {r u grown : Registry σ α} {p : Provider σ α}

/-! ## Registering in any order -/

theorem elements_register (h : r.register p = (.ok p, grown)) :
    grown.elements.Perm (p :: r.elements) := by
  obtain ⟨-, -, rfl⟩ := register_ok h
  exact r.buckets.toList_modify_append p.time p

theorem isRegistered_iff_place (slots : r.SlotsApart) :
    r.isRegistered p = true ↔ ∃ q ∈ r.elements, q.place = p.place := by
  rw [isRegistered_iff]
  constructor
  · rintro ⟨q, hq, same⟩
    exact ⟨q, mem_elements.mpr ⟨_, hq⟩, Prod.ext (slots.time _ q hq) same⟩
  · rintro ⟨q, hq, same⟩
    obtain ⟨time, hq⟩ := mem_elements.mp hq
    obtain ⟨htime, same⟩ := Prod.mk.inj same
    obtain rfl := slots.time time q hq
    exact ⟨q, htime ▸ hq, same⟩

theorem elements_run_registrations {providers : List (Provider σ α)} (slots : r.SlotsApart)
    (known : ∀ p ∈ providers, r.types.tree.Known p.contextType ∧ r.types.tree.Known p.valueType)
    (apart : ((providers ++ r.elements).map Provider.place).Nodup) :
    (r.run (providers.map .register)).2.elements.Perm (providers ++ r.elements) := by
  induction providers generalizing r with
  | nil => exact .refl _
  | cons p rest ih =>
      rw [List.cons_append, List.map_cons, List.nodup_cons] at apart
      obtain ⟨hfresh, hrest⟩ := apart
      have free : r.isRegistered p = false := by
        rw [Bool.eq_false_iff, ne_eq, isRegistered_iff_place slots]
        rintro ⟨q, hq, same⟩
        exact hfresh (same ▸ List.mem_map_of_mem (List.mem_append_right rest hq))
      have accepted := register_eq_ok_iff.mpr ⟨known p List.mem_cons_self, free⟩
      have changed := register_changed r p
      have hjoined : (rest ++ (r.register p).2.elements).Perm (p :: (rest ++ r.elements)) :=
        ((elements_register (Prod.ext accepted rfl)).append_left rest).trans List.perm_middle
      rw [List.map_cons, run_cons]
      refine (ih (changed.slotsApart slots) ?_ ?_).trans hjoined
      · rw [changed.types_eq]
        exact fun q hq => known q (List.mem_cons_of_mem p hq)
      · rw [(hjoined.map Provider.place).nodup_iff, List.map_cons, List.nodup_cons]
        exact ⟨hfresh, hrest⟩

theorem elements_ofProviders {types : TypeSystem σ α} {providers : List (Provider σ α)}
    (known : ∀ p ∈ providers, types.tree.Known p.contextType ∧ types.tree.Known p.valueType)
    (apart : (providers.map Provider.place).Nodup) :
    (ofProviders types providers).elements.Perm providers := by
  have slots : (new types {}).SlotsApart := Reachable.slotsApart ⟨types, {}, [], rfl⟩
  have hnew : (new types {}).elements = [] := rfl
  have hrun := elements_run_registrations slots known (by rwa [hnew, List.append_nil])
  rwa [hnew, List.append_nil] at hrun

/-! ## Contents in any order -/

theorem bucket_eq_filter (slots : r.SlotsApart) (time : Time) :
    r.bucket time = r.elements.filter fun p => p.time = time := by
  have hbucket (asked : Time) : ((r.bucket asked).filter fun p => p.time = time) =
      if asked = time then r.bucket asked else [] := by
    split
    · rename_i h
      exact List.filter_eq_self.mpr fun p hp => by simp [slots.time asked p hp, h]
    · rename_i h
      exact List.filter_eq_nil_iff.mpr fun p hp => by simp [slots.time asked p hp, h]
  have helements : r.elements = r.bucket .past ++ r.bucket .now ++ r.bucket .future := rfl
  rw [helements, List.filter_append, List.filter_append, hbucket, hbucket, hbucket]
  cases time <;> simp

theorem bucket_perm (hr : r.SlotsApart) (hu : u.SlotsApart) (same : r.elements.Perm u.elements)
    (time : Time) : (r.bucket time).Perm (u.bucket time) := by
  rw [bucket_eq_filter hr, bucket_eq_filter hu]
  exact same.filter _

theorem Poisoned.of_perm {request : Request} {passed : List (Time × Stage σ α)}
    {tried : Time × Stage σ α} (h : r.Poisoned request passed tried) (types : u.types = r.types)
    (same : ∀ time, (r.bucket time).Perm (u.bucket time)) : u.Poisoned request passed tried := by
  refine ⟨types ▸ h.planned, ?_, ?_⟩
  · intro earlier hearlier
    rw [types, ← Stage.objects_iff_of_perm (same _), ← Stage.finds_iff_of_perm (same _)]
    exact h.undecided earlier hearlier
  · rw [types]
    exact (Stage.objects_iff_of_perm (same _)).mp h.objection

theorem answer_resembles (types : u.types = r.types)
    (same : ∀ time, (r.bucket time).Perm (u.bucket time)) (request : Request) :
    (r.answer request).Resembles (u.answer request) := by
  refine answer_related (fun _ _ h => h.isConclusive_eq) (.found (.refl _)) types request ?_
  intro tried htried
  rw [outcome, outcome, types]
  exact Stage.run_resembles_of_perm (same tried.1)

/-- Registries of the same providers find the same for every request, and are refused alike,
whatever the order of registration. What is refused is so by the same stage, each time with the
message of the first provider that objects there. -/
theorem registration_order_irrelevant (hr : r.Reachable) (hu : u.Reachable)
    (types : u.types = r.types) (same : r.elements.Perm u.elements) (request : Request) :
    ((r.resolve request).1.isRefused = true ↔ (u.resolve request).1.isRefused = true) ∧
    (r.resolve request).1.candidates.Perm (u.resolve request).1.candidates ∧
    (r.resolve request).1.unique = (u.resolve request).1.unique ∧
    ((r.resolve request).1.isRefused = true → ∃ passed tried p q,
      r.Poisoned request passed tried ∧ u.Poisoned request passed tried ∧
      tried.2.FirstObjector r.types request.context (r.bucket tried.1) p ∧
      tried.2.FirstObjector r.types request.context (u.bucket tried.1) q ∧
      (r.resolve request).1.message? = (p.validate r.types.tree request.context).message? ∧
      (u.resolve request).1.message? = (q.validate r.types.tree request.context).message?) := by
  have buckets := bucket_perm hr.slotsApart hu.slotsApart same
  have resembles := answer_resembles types buckets request
  rw [hr.resolve_eq, hu.resolve_eq]
  refine ⟨by rw [resembles.isRefused_eq], resembles.candidates_perm, resembles.unique_eq, ?_⟩
  intro refused
  obtain ⟨passed, tried, poisoned⟩ := isRefused_answer_iff.mp refused
  have poisoned' := poisoned.of_perm types buckets
  obtain ⟨p, hp, hrefused⟩ := poisoned.exists_firstObjector
  obtain ⟨q, hq, hrefused'⟩ := poisoned'.exists_firstObjector
  rw [types] at hq hrefused'
  refine ⟨passed, tried, p, q, poisoned, poisoned', hp, hq, ?_, ?_⟩
  · rw [hrefused]
    rfl
  · rw [hrefused']
    rfl

/-- Two providers that exclude arrays refuse them with the message of the one that was registered
first, and both are found for everything. -/
theorem arrays_registered_in_either_order :
    let first := { (default : Provider Unit Unit) with
      excluded := [arrays], exclusionMessage := some "first" }
    let second := { first with patterns := [.literal "all"], exclusionMessage := some "second" }
    let r := ofArrays [first, second]
    let u := ofArrays [second, first]
    let anything : Request := ⟨.root, .type .root, .now, .default⟩
    let inArrays : Request := ⟨arrays, .type .root, .past, .default⟩
    r.elements.Perm u.elements ∧
      (r.resolve anything).1.isMultiple = true ∧
      (r.resolve anything).1.candidates.Perm (u.resolve anything).1.candidates ∧
      (r.resolve inArrays).1.message? = some "first" ∧
      (u.resolve inArrays).1.message? = some "second" ∧
      (r.resolve inArrays).1.unique = (u.resolve inArrays).1.unique := by
  intro first second r u anything inArrays
  let types : TypeSystem Unit Unit := { tree := (TypeTree.initial.arrayOf .root).1 }
  have known : ∀ p ∈ [first, second],
      types.tree.Known p.contextType ∧ types.tree.Known p.valueType := by decide +kernel
  have apart : ([first, second].map Provider.place).Nodup := by decide +kernel
  have swapped : [second, first].Perm [first, second] := .swap first second []
  have hr : r.elements.Perm [first, second] := elements_ofProviders known apart
  have hu : u.elements.Perm [second, first] :=
    elements_ofProviders (fun p hp => known p (swapped.mem_iff.mp hp))
      ((swapped.map Provider.place).nodup_iff.mpr apart)
  have same : r.elements.Perm u.elements := hr.trans (hu.trans swapped).symm
  have same_types : u.types = r.types := (run_types _ _).trans (run_types _ _).symm
  have hany := registration_order_irrelevant (ofArrays_reachable _) (ofArrays_reachable _)
    same_types same anything
  have harrays := registration_order_irrelevant (ofArrays_reachable _) (ofArrays_reachable _)
    same_types same inArrays
  exact ⟨same, by decide +kernel, hany.2.1, by decide +kernel, by decide +kernel, harrays.2.2.1⟩

end Registry

end Provision
