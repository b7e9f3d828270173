import Provision.Proofs.Registry.Run

/-! # What operations do to the contents of a registry

Only registration and its reverse touch the contents. All else changes at most what is
remembered. -/

namespace Provision

variable {σ α : Type}

theorem Buckets.modify_eq_self {b : Buckets σ α} {time : Time}
    {f : List (Provider σ α) → List (Provider σ α)} (h : f (b.get time) = b.get time) :
    b.modify time f = b := by
  cases time <;> simp only [get] at h <;> simp only [modify, h]

theorem Buckets.get_modify (b : Buckets σ α) (time asked : Time)
    (f : List (Provider σ α) → List (Provider σ α)) :
    (b.modify time f).get asked = if asked = time then f (b.get asked) else b.get asked := by
  cases time <;> cases asked <;> rfl

namespace Registry

/-! ## Questions -/

/-- A registry that differs from another in what is remembered alone. -/
def SameContents (r u : Registry σ α) : Prop := u = { r with cache := u.cache }

theorem SameContents.trans {r u w : Registry σ α} (hru : r.SameContents u)
    (huw : u.SameContents w) : r.SameContents w := by
  unfold SameContents at *
  rw [huw, hru]

theorem remember_contents (r : Registry σ α) (request : Request) (result : Resolution σ α) :
    r.SameContents (r.remember request result) := by
  unfold SameContents remember
  split <;> rfl

theorem answerOnce_contents {r : Registry σ α} {request : Request}
    {compute : Registry σ α → Resolution σ α × Registry σ α}
    (h : r.SameContents (compute r).2) : r.SameContents (r.answerOnce request compute).2 := by
  unfold answerOnce
  split
  · rfl
  · exact h.trans (remember_contents _ _ _)

theorem resolve_contents (r : Registry σ α) (request : Request) :
    r.SameContents (r.resolve request).2 := by
  unfold resolve
  refine answerOnce_contents ?_
  dsimp only
  split
  · rfl
  · split
    · exact answerOnce_contents rfl
    · rfl

theorem require_contents (r : Registry σ α) (context valueType : TypeId) (time : Time) :
    r.SameContents (r.require context valueType time).2 := by
  unfold require
  dsimp only
  split
  · exact resolve_contents r _
  · exact (resolve_contents r _).trans (resolve_contents _ _)

theorem hasTimeStates_contents (r : Registry σ α) (context valueType : TypeId) :
    r.SameContents (r.hasTimeStates context valueType).2 := by
  unfold hasTimeStates
  dsimp only
  split
  · exact resolve_contents r _
  · exact (resolve_contents r _).trans (resolve_contents _ _)

/-! ## Operations -/

/-- All that an operation can do to the contents: nothing, or add a provider of known types whose
slot is free, or remove what holds a slot. -/
inductive Changed (r : Registry σ α) : Registry σ α → Prop
  | nothing (cache : List (Request × Resolution σ α)) : Changed r { r with cache }
  | added (p : Provider σ α) (context : r.types.tree.Known p.contextType)
      (value : r.types.tree.Known p.valueType) (free : r.isRegistered p = false) :
      Changed r { r with buckets := r.buckets.modify p.time (· ++ [p]), cache := [] }
  | removed (p : Provider σ α) (taken : r.isRegistered p = true) :
      Changed r {
        r with
        buckets := r.buckets.modify p.time fun ps => ps.filter fun q => !q.sameSlot p
        cache := [] }

theorem SameContents.changed {r u : Registry σ α} (h : r.SameContents u) : r.Changed u := by
  rw [h]
  exact .nothing u.cache

/-- Context and value type are looked at first, in this order, then the slot. -/
theorem register_eq (r : Registry σ α) (p : Provider σ α) :
    r.register p =
      if ¬ r.types.tree.Known p.contextType then (.error (.unknownType p.contextType), r)
      else if ¬ r.types.tree.Known p.valueType then (.error (.unknownType p.valueType), r)
      else if r.isRegistered p then
        (.error (.duplicate (r.types.tree.name p.contextType) (r.types.tree.name p.valueType)
          (p.patterns.map (·.source)) p.time), r)
      else (.ok p, { r with buckets := r.buckets.modify p.time (· ++ [p]), cache := [] }) := by
  unfold register
  by_cases context : r.types.tree.Known p.contextType
  · by_cases value : r.types.tree.Known p.valueType
    · simp [context, value, clearCache]
    · simp [context, value]
  · simp [context]

/-- A provider is refused without a trace, or it is of known types and takes a free slot as the last
of its time. -/
theorem register_cases (r : Registry σ α) (p : Provider σ α) :
    (∃ e, r.register p = (.error e, r)) ∨
      (r.types.tree.Known p.contextType ∧ r.types.tree.Known p.valueType) ∧
        r.isRegistered p = false ∧
        r.register p =
          (.ok p, { r with buckets := r.buckets.modify p.time (· ++ [p]), cache := [] }) := by
  rw [register_eq]
  by_cases context : r.types.tree.Known p.contextType
  · by_cases value : r.types.tree.Known p.valueType
    · cases r.isRegistered p <;> simp [context, value]
    · simp [context, value]
  · simp [context]

theorem register_of_error {r : Registry σ α} {p : Provider σ α} {e : Error}
    (h : (r.register p).1 = .error e) : (r.register p).2 = r := by
  rcases register_cases r p with ⟨e, hrefused⟩ | ⟨-, -, hregister⟩
  · rw [hrefused]
  · simp [hregister] at h

theorem register_ok {r grown : Registry σ α} {p : Provider σ α}
    (h : r.register p = (.ok p, grown)) :
    (r.types.tree.Known p.contextType ∧ r.types.tree.Known p.valueType) ∧
      r.isRegistered p = false ∧
      grown = { r with buckets := r.buckets.modify p.time (· ++ [p]), cache := [] } := by
  rcases register_cases r p with ⟨e, hrefused⟩ | ⟨known, free, hregister⟩
  · cases hrefused.symm.trans h
  · exact ⟨known, free, (Prod.mk.inj (h.symm.trans hregister)).2⟩

theorem register_eq_ok_iff {r : Registry σ α} {p : Provider σ α} :
    (r.register p).1 = .ok p ↔
      (r.types.tree.Known p.contextType ∧ r.types.tree.Known p.valueType) ∧
        r.isRegistered p = false := by
  constructor
  · intro h
    obtain ⟨known, free, -⟩ := register_ok (Prod.ext h rfl)
    exact ⟨known, free⟩
  · rintro ⟨⟨context, value⟩, free⟩
    simp [register_eq, context, value, free]

theorem register_changed (r : Registry σ α) (p : Provider σ α) : r.Changed (r.register p).2 := by
  rcases register_cases r p with ⟨e, hrefused⟩ | ⟨⟨context, value⟩, free, hregister⟩
  · rw [hrefused]
    exact .nothing r.cache
  · rw [hregister]
    exact .added p context value free

/-- Fewer providers are left exactly if the slot is taken, and else all are left. -/
theorem unregister_eq (r : Registry σ α) (p : Provider σ α) :
    r.unregister p =
      if r.isRegistered p then
        (true, {
          r with
          buckets := r.buckets.modify p.time (·.filter fun q => !q.sameSlot p)
          cache := [] })
      else (false, r) := by
  have hbucket : (r.buckets.modify p.time (·.filter fun q => !q.sameSlot p)).get p.time =
      (r.bucket p.time).filter fun q => !q.sameSlot p := by
    rw [Buckets.get_modify, if_pos rfl, bucket]
  have hremoved : (((r.bucket p.time).filter fun q => !q.sameSlot p).length !=
      (r.bucket p.time).length) = r.isRegistered p := by
    rw [Bool.eq_iff_iff, bne_iff_ne, ne_eq, List.length_filter_eq_length_iff, isRegistered]
    simp
  simp only [unregister, bucket, hbucket]
  rw [← bucket, hremoved]
  cases taken : r.isRegistered p with
  | true => rfl
  | false =>
      have kept : (r.buckets.get p.time).filter (fun q => !q.sameSlot p) =
          r.buckets.get p.time := by
        simpa [isRegistered, bucket] using taken
      simp [Buckets.modify_eq_self kept]

theorem unregister_changed (r : Registry σ α) (p : Provider σ α) :
    r.Changed (r.unregister p).2 := by
  rw [unregister_eq]
  split
  · exact .removed p ‹_›
  · exact .nothing r.cache

theorem step_changed (r : Registry σ α) (op : Operation σ α) : r.Changed (r.step op).2 := by
  cases op with
  | register p => exact register_changed r p
  | unregister p => exact unregister_changed r p
  | resolve request => exact (resolve_contents r request).changed
  | resolveNow context query => exact (resolve_contents r _).changed
  | require context valueType time => exact (require_contents r context valueType time).changed
  | valueOf s context valueType time => exact (resolve_contents r _).changed
  | hasTimeStates context valueType => exact (hasTimeStates_contents r context valueType).changed
  | clearCache => exact .nothing []

theorem Changed.types_eq {r u : Registry σ α} (h : r.Changed u) : u.types = r.types := by
  cases h <;> rfl

theorem run_types (r : Registry σ α) (ops : List (Operation σ α)) :
    (r.run ops).2.types = r.types := by
  induction ops generalizing r with
  | nil => rfl
  | cons op ops ih =>
      rw [run_cons]
      exact (ih _).trans (step_changed r op).types_eq

/-! ## Order of registration -/

theorem SameContents.bucket_eq {r u : Registry σ α} (h : r.SameContents u) (time : Time) :
    u.bucket time = r.bucket time := by
  rw [h]
  rfl

/-- The providers that operations ask to register for a time, in order. -/
def registrations (time : Time) : List (Operation σ α) → List (Provider σ α)
  | [] => []
  | .register p :: ops => if time = p.time then p :: registrations time ops
    else registrations time ops
  | _ :: ops => registrations time ops

theorem registrations_cons (time : Time) (op : Operation σ α) (ops : List (Operation σ α)) :
    registrations time (op :: ops) = registrations time [op] ++ registrations time ops := by
  cases op with
  | register p =>
      simp only [registrations]
      split <;> rfl
  | _ => rfl

theorem step_bucket_sublist (r : Registry σ α) (op : Operation σ α) (time : Time) :
    ((r.step op).2.bucket time).Sublist (r.bucket time ++ registrations time [op]) := by
  cases op with
  | register p =>
      rcases register_cases r p with ⟨e, hrefused⟩ | ⟨-, -, hregister⟩
      · simp only [step, hrefused]
        exact List.sublist_append_left _ _
      · simp only [step, hregister, bucket, Buckets.get_modify, registrations]
        split <;> simp
  | unregister p =>
      simp only [step, registrations, List.append_nil, unregister_eq]
      split
      · simp only [bucket, Buckets.get_modify]
        split
        · exact List.filter_sublist
        · exact List.Sublist.refl _
      · exact List.Sublist.refl _
  | resolve request => simp [step, registrations, (resolve_contents r request).bucket_eq]
  | resolveNow context query =>
      simp [step, registrations, resolveNow, (resolve_contents r _).bucket_eq]
  | require context valueType asked =>
      simp [step, registrations, (require_contents r context valueType asked).bucket_eq]
  | valueOf s context valueType asked =>
      simp [step, registrations, valueOf, (resolve_contents r _).bucket_eq]
  | hasTimeStates context valueType =>
      simp [step, registrations, (hasTimeStates_contents r context valueType).bucket_eq]
  | clearCache => simp [step, registrations, clearCache, bucket]

/-- The providers of a time always stand in the order in which they were registered. -/
theorem run_bucket_sublist (r : Registry σ α) (ops : List (Operation σ α)) (time : Time) :
    ((r.run ops).2.bucket time).Sublist (r.bucket time ++ registrations time ops) := by
  induction ops generalizing r with
  | nil => simp [run, registrations]
  | cons op ops ih =>
      rw [run_cons, registrations_cons, ← List.append_assoc]
      exact (ih _).trans ((step_bucket_sublist r op time).append_right _)

/-! ## Elements -/

theorem bucket_new (types : TypeSystem σ α) (settings : Settings) (time : Time) :
    (new types settings).bucket time = [] := by
  cases time <;> rfl

theorem mem_elements {r : Registry σ α} {p : Provider σ α} :
    p ∈ r.elements ↔ ∃ time, p ∈ r.bucket time := by
  simp only [elements, Buckets.toList, List.mem_append]
  constructor
  · rintro ((h | h) | h)
    · exact ⟨.past, h⟩
    · exact ⟨.now, h⟩
    · exact ⟨.future, h⟩
  · rintro ⟨time, h⟩
    cases time with
    | past => exact .inl (.inl h)
    | now => exact .inl (.inr h)
    | future => exact .inr h

theorem mem_elements_of_register {r grown : Registry σ α} {p : Provider σ α}
    (h : r.register p = (.ok p, grown)) : p ∈ grown.elements := by
  obtain ⟨-, -, rfl⟩ := register_ok h
  exact mem_elements.mpr ⟨p.time, by simp [bucket, Buckets.get_modify]⟩

theorem mem_registrations {time : Time} {ops : List (Operation σ α)} {p : Provider σ α}
    (h : p ∈ registrations time ops) : Operation.register p ∈ ops := by
  induction ops with
  | nil => simp [registrations] at h
  | cons op ops ih =>
      rw [registrations_cons, List.mem_append] at h
      rcases h with h | h
      · cases op with
        | register q =>
            simp only [registrations] at h
            split at h
            · simp [List.mem_singleton.mp h]
            · simp at h
        | _ => simp [registrations] at h
      · exact List.mem_cons_of_mem op (ih h)

theorem mem_of_mem_elements_ofProviders {types : TypeSystem σ α}
    {providers : List (Provider σ α)} {p : Provider σ α}
    (h : p ∈ (ofProviders types providers).elements) : p ∈ providers := by
  obtain ⟨time, hp⟩ := mem_elements.mp h
  have hsublist := run_bucket_sublist (new types {}) (providers.map .register) time
  rcases List.mem_append.mp (hsublist.subset hp) with hp | hp
  · simp [bucket_new] at hp
  · simpa using mem_registrations hp

/-! ## Known types -/

/-- The context and value types of all registered providers are known. -/
def TypesKnown (r : Registry σ α) : Prop :=
  ∀ time, ∀ p ∈ r.bucket time,
    r.types.tree.Known p.contextType ∧ r.types.tree.Known p.valueType

theorem Changed.typesKnown {r u : Registry σ α} (h : r.Changed u) (known : r.TypesKnown) :
    u.TypesKnown := by
  cases h with
  | nothing cache => exact known
  | added p context value free =>
      intro time q hq
      simp only [bucket, Buckets.get_modify] at hq
      split at hq
      · rcases List.mem_append.mp hq with hq | hq
        · exact known time q hq
        · rw [List.mem_singleton.mp hq]
          exact ⟨context, value⟩
      · exact known time q hq
  | removed p taken =>
      intro time q hq
      simp only [bucket, Buckets.get_modify] at hq
      split at hq
      · exact known time q (List.mem_filter.mp hq).1
      · exact known time q hq

theorem Reachable.typesKnown {r : Registry σ α} (h : r.Reachable) : r.TypesKnown := by
  refine h.invariant ?_ ?_
  · intro types settings time p hp
    simp [bucket_new] at hp
  · intro r op known
    exact (step_changed r op).typesKnown known

end Registry

end Provision
