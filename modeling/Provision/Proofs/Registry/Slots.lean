import Provision.Proofs.Registry.Memory

/-! # One provider in each slot

Every provider is kept for its own time, and no two of a time hold the same slot. So one provider at
most leaves when a slot is given up, and one that is given up at once leaves no trace. -/

namespace Provision

variable {σ α : Type}

/-! ## Slots -/

/-- A slot: two types, and the sources of patterns in their order. -/
def Provider.slot (p : Provider σ α) : TypeId × TypeId × List String :=
  (p.contextType, p.valueType, p.patterns.map (·.source))

theorem Provider.sameSlot_iff (p q : Provider σ α) : p.sameSlot q = true ↔ p.slot = q.slot := by
  simp [sameSlot, slot, Pattern.beq_list_iff, and_assoc]

/-- Where no two providers hold the same slot, only one goes with a slot. -/
theorem Provider.filter_slot_eq {before after : List (Provider σ α)} {q p : Provider σ α}
    (apart : ((before ++ q :: after).map slot).Nodup) (same : q.slot = p.slot) :
    (before ++ q :: after).filter (fun other => !other.sameSlot p) = before ++ after := by
  rw [List.map_append, List.map_cons, List.nodup_append, List.nodup_cons] at apart
  obtain ⟨-, ⟨hafter, -⟩, hbefore⟩ := apart
  have kept : ∀ other ∈ before ++ after, (!other.sameSlot p) = true := by
    intro other hother
    rw [Bool.not_eq_true', Bool.eq_false_iff, ne_eq, sameSlot_iff, ← same]
    rcases List.mem_append.mp hother with hother | hother
    · exact hbefore _ (List.mem_map_of_mem hother) _ List.mem_cons_self
    · intro heq
      exact hafter (heq ▸ List.mem_map_of_mem hother)
  have hq : q.sameSlot p = true := (sameSlot_iff q p).mpr same
  calc (before ++ q :: after).filter (fun other => !other.sameSlot p)
      = (before ++ after).filter (fun other => !other.sameSlot p) := by simp [hq]
    _ = before ++ after := List.filter_eq_self.mpr kept

/-! ## Buckets -/

theorem Buckets.modify_modify (b : Buckets σ α) (time : Time)
    (f g : List (Provider σ α) → List (Provider σ α)) :
    (b.modify time f).modify time g = b.modify time fun ps => g (f ps) := by
  cases time <;> rfl

namespace Registry

variable {r u grown : Registry σ α} {p : Provider σ α}

theorem isRegistered_iff :
    r.isRegistered p = true ↔ ∃ q ∈ r.bucket p.time, q.slot = p.slot := by
  simp [isRegistered, Provider.sameSlot_iff]

/-! ## The invariant -/

/-- Every provider is kept for its own time, and no two of a time hold the same slot. -/
structure SlotsApart (r : Registry σ α) : Prop where
  time : ∀ time, ∀ p ∈ r.bucket time, p.time = time
  apart : ∀ time, ((r.bucket time).map Provider.slot).Nodup

theorem Changed.slotsApart (h : r.Changed u) (slots : r.SlotsApart) : u.SlotsApart := by
  cases h with
  | nothing cache => exact ⟨slots.time, slots.apart⟩
  | added p context value free =>
      have hfree : p.slot ∉ (r.bucket p.time).map Provider.slot := by
        rw [List.mem_map, ← isRegistered_iff, free]
        exact Bool.false_ne_true
      refine ⟨?_, ?_⟩
      · intro time q hq
        simp only [bucket, Buckets.get_modify] at hq
        split at hq
        · rename_i htime
          rcases List.mem_append.mp hq with hq | hq
          · exact slots.time time q hq
          · rw [List.mem_singleton.mp hq, htime]
        · exact slots.time time q hq
      · intro time
        simp only [bucket, Buckets.get_modify]
        split
        · rename_i htime
          subst htime
          rw [List.map_append]
          refine List.nodup_append.mpr ⟨slots.apart p.time, by simp, ?_⟩
          rintro slot hslot _ hp rfl
          exact hfree (List.mem_singleton.mp hp ▸ hslot)
        · exact slots.apart time
  | removed p taken =>
      refine ⟨?_, ?_⟩
      · intro time q hq
        simp only [bucket, Buckets.get_modify] at hq
        split at hq
        · exact slots.time time q (List.mem_filter.mp hq).1
        · exact slots.time time q hq
      · intro time
        simp only [bucket, Buckets.get_modify]
        split
        · exact (slots.apart time).sublist (List.filter_sublist.map Provider.slot)
        · exact slots.apart time

theorem Reachable.slotsApart (h : r.Reachable) : r.SlotsApart := by
  refine h.invariant ?_ ?_
  · intro types settings
    refine ⟨?_, ?_⟩
    · intro time p hp
      simp [bucket_new] at hp
    · intro time
      simp [bucket_new]
  · intro r op slots
    exact (step_changed r op).slotsApart slots

/-! ## Giving up slots -/

/-- What holds the slot leaves its place, and all else stays in order. -/
theorem SlotsApart.bucket_unregister (slots : r.SlotsApart) {before after : List (Provider σ α)}
    {q : Provider σ α} (split : r.bucket p.time = before ++ q :: after) (same : q.slot = p.slot)
    (time : Time) :
    (r.unregister p).2.bucket time = if time = p.time then before ++ after else r.bucket time := by
  have taken : r.isRegistered p = true := isRegistered_iff.mpr ⟨q, by simp [split], same⟩
  have apart := slots.apart p.time
  rw [split] at apart
  simp only [unregister_eq, taken, if_true, bucket, Buckets.get_modify]
  split
  · rename_i htime
    subst htime
    rw [← bucket, split]
    exact Provider.filter_slot_eq apart same
  · rfl

/-- Of a provider that is registered and given up at once, nothing is left but that what was
remembered is forgotten. -/
theorem SlotsApart.unregister_register (slots : r.SlotsApart)
    (h : r.register p = (.ok p, grown)) :
    grown.unregister p = (true, r.clearCache) := by
  have apart := ((register_changed r p).slotsApart slots).apart p.time
  rw [h] at apart
  obtain ⟨-, -, rfl⟩ := register_ok h
  simp only [bucket, Buckets.get_modify, if_true] at apart
  have kept : (r.bucket p.time ++ [p]).filter (fun other => !other.sameSlot p) =
      r.bucket p.time := by
    rw [bucket, Provider.filter_slot_eq apart rfl, List.append_nil]
  have taken : isRegistered
      { r with buckets := r.buckets.modify p.time (· ++ [p]), cache := [] } p = true :=
    isRegistered_iff.mpr ⟨p, by simp [bucket, Buckets.get_modify], rfl⟩
  simp only [unregister_eq, taken, if_true, Buckets.modify_modify, clearCache]
  rw [Buckets.modify_eq_self kept]

theorem clearCache_alike (h : r.Coherent) : Alike r.clearCache r :=
  ⟨rfl, rfl, rfl, coherent_of_cache_eq_nil rfl, h⟩

/-! ## Slots over runs -/

theorem exists_register_duplicate_iff :
    (∃ context value patterns time,
        (r.register p).1 = .error (.duplicate context value patterns time)) ↔
      (r.types.tree.Known p.contextType ∧ r.types.tree.Known p.valueType) ∧
        ∃ q ∈ r.bucket p.time, q.slot = p.slot := by
  rw [← isRegistered_iff, register_eq]
  by_cases context : r.types.tree.Known p.contextType
  · by_cases value : r.types.tree.Known p.valueType
    · cases r.isRegistered p <;> simp [context, value]
    · simp [context, value]
  · simp [context]

/-- After every run, a slot of a time is held by one provider at most. A slot that is taken is given
up by taking out the one provider that holds it, and is refused to any other. What is refused, and
what was not there to be given up, changes nothing, and a provider that is registered and given up
at once leaves the contents and everything that is said later as they were. -/
theorem slots_stay_apart (reachable : r.Reachable) :
    r.SlotsApart ∧ ∀ p : Provider σ α,
      ((r.unregister p).1 = true ↔ r.isRegistered p = true) ∧
      (r.isRegistered p = true → ∃ before q after,
        r.bucket p.time = before ++ q :: after ∧ q.slot = p.slot ∧
          ∀ time, (r.unregister p).2.bucket time =
            if time = p.time then before ++ after else r.bucket time) ∧
      ((∃ context value patterns time,
          (r.register p).1 = .error (.duplicate context value patterns time)) ↔
        (r.types.tree.Known p.contextType ∧ r.types.tree.Known p.valueType) ∧
          ∃ q ∈ r.bucket p.time, q.slot = p.slot) ∧
      (∀ e, (r.register p).1 = .error e → (r.register p).2 = r) ∧
      ((r.unregister p).1 = false → (r.unregister p).2 = r) ∧
      ∀ grown, r.register p = (.ok p, grown) →
        (grown.unregister p).1 = true ∧ (grown.unregister p).2.buckets = r.buckets ∧
          ∀ ops, ((grown.unregister p).2.run ops).1 = (r.run ops).1 := by
  have slots := reachable.slotsApart
  refine ⟨slots, fun p => ⟨?_, ?_, exists_register_duplicate_iff, ?_, ?_, ?_⟩⟩
  · rw [unregister_eq]
    cases r.isRegistered p <;> simp
  · intro taken
    obtain ⟨q, hq, same⟩ := isRegistered_iff.mp taken
    obtain ⟨before, after, split⟩ := List.append_of_mem hq
    exact ⟨before, q, after, split, same, slots.bucket_unregister split same⟩
  · exact fun e => register_of_error
  · intro stays
    rw [unregister_eq] at stays ⊢
    split at stays
    · simp at stays
    · rename_i free
      rw [if_neg free]
  · intro grown registered
    rw [slots.unregister_register registered]
    exact ⟨rfl, rfl, fun ops => (run_alike (clearCache_alike reachable.coherent) ops).1⟩

/-- What is registered for arrays cannot be registered again, and can be given up. One that goes by
another pattern comes and goes beside it. -/
theorem array_slots_stay_apart :
    let first := { (default : Provider Unit Unit) with contextType := arrays }
    let second := { first with patterns := [.literal "all"] }
    let r := ofArrays [first]
    r.Reachable ∧
      (∃ context value patterns time,
        (r.register first).1 = .error (.duplicate context value patterns time)) ∧
      (∃ before q after, r.bucket .now = before ++ q :: after ∧
        (r.unregister first).2.bucket .now = before ++ after) ∧
      ∃ grown, r.register second = (.ok second, grown) ∧
        ∀ ops, ((grown.unregister second).2.run ops).1 = (r.run ops).1 := by
  intro first second r
  have reachable : r.Reachable := ofArrays_reachable _
  have known : r.types.tree.Known arrays ∧ r.types.tree.Known .root := by decide +kernel
  have taken : r.isRegistered first = true := by decide +kernel
  have free : r.isRegistered second = false := by decide +kernel
  have registered : (r.register second).1 = .ok second := register_eq_ok_iff.mpr ⟨known, free⟩
  obtain ⟨-, hslots⟩ := slots_stay_apart reachable
  obtain ⟨-, hremoved, hduplicate, -⟩ := hslots first
  obtain ⟨before, q, after, hbucket, -, hleft⟩ := hremoved taken
  refine ⟨reachable, hduplicate.mpr ⟨known, isRegistered_iff.mp taken⟩, ?_, ?_⟩
  · exact ⟨before, q, after, hbucket, hleft .now⟩
  · obtain ⟨-, -, -, -, -, hrestored⟩ := hslots second
    exact ⟨_, Prod.ext registered rfl, (hrestored _ (Prod.ext registered rfl)).2.2⟩

end Registry

end Provision
