import Mathlib.Data.Finset.Card
import Mathlib.Data.Finset.Union
import Provision.Proofs.Registry.Answer

/-! # Which requests a registry remembers

A request leaves its own result behind, and that for the present where it went on to there. What is
remembered is the union of what the requests since the last change have left, so neither their order
nor their repetition matters. -/

namespace Provision

variable {σ α : Type}

/-! ## Requests that fall back -/

namespace Request

/-- The request for the present, without the flag to fall back. -/
def present (request : Request) : Request :=
  { request with time := .now, flags := request.flags.without .fallback }

theorem fallback?_normalized (request : Request) :
    request.normalized.fallback? =
      if request.time ≠ .now ∧ request.flags.contains .fallback = true then some request.present
      else none := by
  cases request with
  | mk context query time flags =>
      cases time <;> simp [normalized, fallback?, present, SearchFlags.normalizedFor, Time.isNow]

theorem normalized_present (request : Request) : request.present.normalized = request.present := by
  simp [normalized, present, SearchFlags.normalizedFor, Time.isNow, SearchFlags.without_without]

theorem normalized_of_elsewhen {request : Request} (elsewhen : request.time ≠ .now) :
    request.normalized = request := by
  cases request with
  | mk context query time flags =>
      cases time with
      | now => exact absurd rfl elsewhen
      | _ => rfl

end Request

namespace Registry

/-! ## What requests leave behind -/

def keys (r : Registry σ α) : Finset Request := (r.cache.map (·.1)).toFinset

/-- What is remembered of a request: the result under the flags that matter at its time, and that
for the present if its own time does not decide and it may fall back. -/
def keysOf (r : Registry σ α) (request : Request) : Finset Request :=
  insert request.normalized
    (if (r.answerAt request request.time).isConclusive = false ∧
        request.time ≠ .now ∧ request.flags.contains .fallback = true then
      {request.present}
    else ∅)

theorem SameContents.keysOf_eq {r u : Registry σ α} (h : r.SameContents u) :
    u.keysOf = r.keysOf := by
  rw [h]
  rfl

section

variable {r : Registry σ α} {request : Request}

theorem keysOf_now (now : request.time = .now) : r.keysOf request = {request.normalized} := by
  simp [keysOf, now]

theorem keysOf_normalized : r.keysOf request.normalized = r.keysOf request := by
  by_cases now : request.time = .now
  · have now' : request.normalized.time = .now := now
    rw [keysOf_now now, keysOf_now now', Request.normalized_normalized]
  · rw [Request.normalized_of_elsewhen now]

theorem keysOf_subset {key : Request} (h : key ∈ r.keysOf request) :
    r.keysOf key ⊆ r.keysOf request := by
  rcases Finset.mem_insert.mp h with rfl | hpresent
  · rw [keysOf_normalized]
  · split at hpresent
    · obtain rfl := Finset.mem_singleton.mp hpresent
      rw [keysOf_now rfl, Request.normalized_present]
      exact Finset.singleton_subset_iff.mpr h
    · simp at hpresent

end

/-! ## Remembering -/

section

variable {r : Registry σ α} {request : Request}

theorem keys_remember (enabled : r.settings.cacheResolutions = true)
    (result : Resolution σ α) :
    (r.remember request result).keys = insert request r.keys := by
  ext key
  simp only [remember, enabled, if_true, keys, List.map_cons, List.toFinset_cons,
    Finset.mem_insert, List.mem_toFinset, List.mem_map, List.mem_filter, bne_iff_ne]
  constructor
  · rintro (rfl | ⟨entry, ⟨hentry, -⟩, rfl⟩)
    · exact .inl rfl
    · exact .inr ⟨entry, hentry, rfl⟩
  · rintro (rfl | ⟨entry, hentry, rfl⟩)
    · exact .inl rfl
    · by_cases heq : entry.1 = request
      · exact .inl heq
      · exact .inr ⟨entry, ⟨hentry, heq⟩, rfl⟩

theorem remembered?_eq_none_iff (enabled : r.settings.cacheResolutions = true) :
    r.remembered? request = none ↔ request ∉ r.keys := by
  simp only [remembered?, enabled, if_true, List.lookup_eq_none_iff, keys, List.mem_toFinset,
    List.mem_map, not_exists, not_and]
  constructor
  · rintro h entry hentry rfl
    simpa using h entry hentry
  · intro h entry hentry
    exact bne_iff_ne.mpr (Ne.symm (h entry hentry))

theorem answerOnce_of_mem (enabled : r.settings.cacheResolutions = true) (h : request ∈ r.keys)
    (compute : Registry σ α → Resolution σ α × Registry σ α) :
    (r.answerOnce request compute).2 = r := by
  unfold answerOnce
  cases hmemory : r.remembered? request with
  | some result => rfl
  | none => exact absurd h ((remembered?_eq_none_iff enabled).mp hmemory)

theorem keys_answerOnce_of_not_mem (enabled : r.settings.cacheResolutions = true)
    (h : request ∉ r.keys) {compute : Registry σ α → Resolution σ α × Registry σ α}
    (contents : r.SameContents (compute r).2) :
    (r.answerOnce request compute).2.keys = insert request (compute r).2.keys := by
  have enabled' : (compute r).2.settings.cacheResolutions = true := by rwa [contents]
  simp only [answerOnce, (remembered?_eq_none_iff enabled).mpr h]
  exact keys_remember enabled' _

theorem keys_resolve_of_not_mem (enabled : r.settings.cacheResolutions = true)
    (h : request.normalized ∉ r.keys) :
    (r.resolve request).2.keys = r.keysOf request ∪ r.keys := by
  unfold resolve
  dsimp only
  have hown : r.answerAtTime request.normalized = r.answerAt request request.time :=
    answerAtTime_normalized r request
  cases conclusive : (r.answerAt request request.time).isConclusive with
  | true =>
      rw [keys_answerOnce_of_not_mem enabled h (by simp [hown, conclusive, SameContents])]
      simp [hown, conclusive, keysOf]
  | false =>
      by_cases back : request.time ≠ .now ∧ request.flags.contains .fallback = true
      · have hnext := (Request.fallback?_normalized request).trans (if_pos back)
        have contents : r.SameContents (r.answerOnce request.present fun r =>
            (r.answerAtTime request.present, r)).2 := answerOnce_contents rfl
        rw [keys_answerOnce_of_not_mem enabled h
          (by simpa [hown, conclusive, hnext] using contents)]
        simp only [hown, conclusive, hnext, Bool.false_eq_true, if_false, keysOf, back,
          ne_eq, not_false_eq_true, and_self, if_true, Finset.insert_union]
        congr 1
        -- the present may be remembered already, from another request
        by_cases present : request.present ∈ r.keys
        · rw [answerOnce_of_mem enabled present]
          exact (Finset.insert_eq_of_mem present).symm
        · exact keys_answerOnce_of_not_mem enabled present rfl
      · have hnext := (Request.fallback?_normalized request).trans (if_neg back)
        rw [keys_answerOnce_of_not_mem enabled h (by simp [hown, conclusive, hnext, SameContents])]
        simp [hown, conclusive, hnext, keysOf, back]

theorem keys_nodup_answerOnce (h : (r.cache.map (·.1)).Nodup)
    {compute : Registry σ α → Resolution σ α × Registry σ α}
    (computed : ((compute r).2.cache.map (·.1)).Nodup) :
    ((r.answerOnce request compute).2.cache.map (·.1)).Nodup := by
  unfold answerOnce
  split
  · exact h
  · dsimp only
    unfold remember
    split
    · refine List.nodup_cons.mpr ⟨?_, computed.sublist (List.filter_sublist.map _)⟩
      simp
    · exact computed

theorem keys_nodup_resolve (h : (r.cache.map (·.1)).Nodup) :
    ((r.resolve request).2.cache.map (·.1)).Nodup := by
  unfold resolve
  refine keys_nodup_answerOnce h ?_
  dsimp only
  split
  · exact h
  · split
    · exact keys_nodup_answerOnce h h
    · exact h

end

/-! ## Requests since the last change -/

/-- The requests that an operation makes, in order. -/
def requests (r : Registry σ α) : Operation σ α → List Request
  | .resolve request => [request]
  | .resolveNow context query => [⟨context, query, .now, r.settings.defaultFlags⟩]
  | .require context valueType time =>
    let strict : Request :=
      ⟨context, .type valueType, time, r.settings.defaultFlags.without .conversion⟩
    if (r.answer strict).isMultiple || (r.answer strict).isRefused then [strict]
    else [strict, ⟨context, .type valueType, time, r.settings.defaultFlags⟩]
  | .valueOf _ context valueType time =>
    [⟨context.type, .type valueType, time, r.settings.defaultFlags⟩]
  | .hasTimeStates context valueType =>
    let request (time : Time) : Request :=
      ⟨context, .type valueType, time, r.settings.defaultFlags.without .fallback⟩
    if (r.answer (request .past)).isSuccessful then [request .past]
    else [request .past, request .future]
  | _ => []

/-- Whether an operation empties what is remembered: it changes the contents, or asks for that. -/
def forgets (r : Registry σ α) : Operation σ α → Bool
  | .register p => (r.register p).1.isOk
  | .unregister p => r.isRegistered p
  | .clearCache => true
  | _ => false

/-- The requests that operations make after the last that empties what is remembered. Those of
`earlier` were made before the operations. -/
def askedSince (r : Registry σ α) (earlier : List Request) : List (Operation σ α) → List Request
  | [] => earlier
  | op :: ops =>
    (r.step op).2.askedSince (if r.forgets op then [] else earlier ++ r.requests op) ops

/-- What is remembered is what some requests have left behind, each once. -/
structure Remembers (r : Registry σ α) (asked : List Request) : Prop where
  enabled : r.settings.cacheResolutions = true
  keys_eq : r.keys = asked.toFinset.biUnion r.keysOf
  nodup : (r.cache.map (·.1)).Nodup

namespace Remembers

variable {r : Registry σ α} {asked : List Request}

theorem nothing (enabled : r.settings.cacheResolutions = true) (empty : r.cache = []) :
    r.Remembers [] :=
  ⟨enabled, by simp [keys, empty], by simp [empty]⟩

theorem cachedResolutions_eq (h : r.Remembers asked) :
    r.cachedResolutions = (asked.toFinset.biUnion r.keysOf).card := by
  rw [← h.keys_eq, keys, List.toFinset_card_of_nodup h.nodup, List.length_map]
  rfl

theorem keysOf_subset (h : r.Remembers asked) {request : Request}
    (hit : request.normalized ∈ r.keys) : r.keysOf request ⊆ r.keys := by
  rw [h.keys_eq] at hit ⊢
  obtain ⟨earlier, hearlier, hkey⟩ := Finset.mem_biUnion.mp hit
  rw [← keysOf_normalized]
  exact (Registry.keysOf_subset hkey).trans (Finset.subset_biUnion_of_mem _ hearlier)

theorem resolve (h : r.Remembers asked) (request : Request) :
    (r.resolve request).2.Remembers (asked ++ [request]) := by
  have contents := resolve_contents r request
  refine ⟨?_, ?_, keys_nodup_resolve h.nodup⟩
  · rw [contents]
    exact h.enabled
  · have hunion : (r.resolve request).2.keys = r.keysOf request ∪ r.keys := by
      by_cases hit : request.normalized ∈ r.keys
      · rw [Registry.resolve, answerOnce_of_mem h.enabled hit,
          Finset.union_eq_right.mpr (h.keysOf_subset hit)]
      · exact keys_resolve_of_not_mem h.enabled hit
    rw [hunion, contents.keysOf_eq, List.toFinset_append, Finset.union_biUnion, ← h.keys_eq,
      Finset.union_comm]
    simp

theorem require (h : r.Remembers asked) (coherent : r.Coherent) (context valueType : TypeId)
    (time : Time) :
    (r.require context valueType time).2.Remembers
      (asked ++ r.requests (.require context valueType time)) := by
  have hstrict := resolve_answered coherent
    ⟨context, .type valueType, time, r.settings.defaultFlags.without .conversion⟩
  have hfirst := h.resolve
    ⟨context, .type valueType, time, r.settings.defaultFlags.without .conversion⟩
  simp only [Registry.require, requests, hstrict.result]
  split
  · exact hfirst
  · have hsecond := hfirst.resolve ⟨context, .type valueType, time, r.settings.defaultFlags⟩
    rwa [List.append_assoc] at hsecond

theorem hasTimeStates (h : r.Remembers asked) (coherent : r.Coherent)
    (context valueType : TypeId) :
    (r.hasTimeStates context valueType).2.Remembers
      (asked ++ r.requests (.hasTimeStates context valueType)) := by
  have hpast := resolve_answered coherent
    ⟨context, .type valueType, .past, r.settings.defaultFlags.without .fallback⟩
  have hfirst := h.resolve
    ⟨context, .type valueType, .past, r.settings.defaultFlags.without .fallback⟩
  simp only [Registry.hasTimeStates, requests, hpast.result]
  split
  · exact hfirst
  · have hsecond := hfirst.resolve
      ⟨context, .type valueType, .future, r.settings.defaultFlags.without .fallback⟩
    rwa [List.append_assoc] at hsecond

/-- One operation: what it empties is empty, and else the keys of its requests are added. -/
theorem step (h : r.Remembers asked) (coherent : r.Coherent) (op : Operation σ α) :
    (r.step op).2.Remembers (if r.forgets op then [] else asked ++ r.requests op) := by
  cases op with
  | register p =>
      rcases register_cases r p with ⟨e, hrefused⟩ | ⟨-, -, hregister⟩
      · simpa [Registry.step, forgets, hrefused, Except.isOk, Except.toBool, requests] using h
      · simp only [Registry.step, forgets, hregister, Except.isOk, Except.toBool, if_true]
        exact nothing h.enabled rfl
  | unregister p =>
      cases taken : r.isRegistered p with
      | true =>
          simp only [Registry.step, unregister_eq, forgets, taken, if_true]
          exact nothing h.enabled rfl
      | false =>
          simpa [Registry.step, unregister_eq, forgets, taken, requests] using h
  | resolve request => exact h.resolve request
  | resolveNow context query => exact h.resolve _
  | require context valueType time => exact h.require coherent context valueType time
  | valueOf s context valueType time => exact h.resolve _
  | hasTimeStates context valueType => exact h.hasTimeStates coherent context valueType
  | clearCache => exact nothing h.enabled rfl

theorem run (h : r.Remembers asked) (coherent : r.Coherent) (ops : List (Operation σ α)) :
    (r.run ops).2.Remembers (r.askedSince asked ops) := by
  induction ops generalizing r asked with
  | nil => exact h
  | cons op ops ih =>
      rw [run_cons]
      exact ih (h.step coherent op) (Alike.step ⟨rfl, rfl, rfl, coherent, coherent⟩ op).2.left

end Remembers

theorem run_requests_contents (r : Registry σ α) (asked : List Request) :
    r.SameContents (r.run (asked.map .resolve)).2 := by
  induction asked generalizing r with
  | nil => rfl
  | cons request asked ih =>
      rw [List.map_cons, run_cons]
      exact (resolve_contents r request).trans (ih _)

/-- Requests after one another, from an empty memory on, leave the union of their keys behind. -/
theorem remembers_requests {r : Registry σ α} (enabled : r.settings.cacheResolutions = true)
    (asked : List Request) :
    (r.clearCache.run (asked.map .resolve)).2.Remembers asked := by
  have hsince : ∀ (asked earlier : List Request) (u : Registry σ α),
      u.askedSince earlier (asked.map .resolve) = earlier ++ asked := by
    intro asked
    induction asked with
    | nil => simp [askedSince]
    | cons request asked ih =>
        intro earlier u
        rw [List.map_cons, askedSince, ih]
        simp [forgets, requests]
  have hrun := (Remembers.nothing (r := r.clearCache) enabled rfl).run
    (coherent_of_cache_eq_nil rfl) (asked.map .resolve)
  rwa [hsince, List.nil_append] at hrun

/-! ## Registries without memory -/

theorem resolve_of_disabled {r : Registry σ α} (disabled : r.settings.cacheResolutions = false)
    (request : Request) : (r.resolve request).2 = r := by
  have honce : ∀ (request : Request) (compute : Registry σ α → Resolution σ α × Registry σ α),
      (compute r).2 = r → (r.answerOnce request compute).2 = r := by
    intro request compute unchanged
    simp [answerOnce, remembered?, remember, disabled, unchanged]
  unfold resolve
  refine honce _ _ ?_
  dsimp only
  split
  · rfl
  · split
    · exact honce _ _ rfl
    · rfl

theorem cache_step_of_disabled {r : Registry σ α}
    (h : r.settings.cacheResolutions = false ∧ r.cache = []) (op : Operation σ α) :
    (r.step op).2.settings.cacheResolutions = false ∧ (r.step op).2.cache = [] := by
  cases op with
  | register p =>
      rcases register_cases r p with ⟨e, hrefused⟩ | ⟨-, -, hregister⟩
      · simpa [step, hrefused] using h
      · simp [step, hregister, h.1]
  | unregister p =>
      simp only [step, unregister_eq]
      split
      · exact ⟨h.1, rfl⟩
      · exact h
  | require context valueType time =>
      simp only [step, require, resolve_of_disabled h.1]
      split <;> exact h
  | hasTimeStates context valueType =>
      simp only [step, hasTimeStates, resolve_of_disabled h.1]
      split <;> exact h
  | clearCache => exact ⟨h.1, rfl⟩
  | _ => simpa [step, resolveNow, valueOf, resolve_of_disabled h.1] using h

theorem cache_run_of_disabled {r : Registry σ α}
    (h : r.settings.cacheResolutions = false ∧ r.cache = []) (ops : List (Operation σ α)) :
    (r.run ops).2.cache = [] := by
  induction ops generalizing r with
  | nil => exact h.2
  | cons op ops ih =>
      rw [run_cons]
      exact ih (cache_step_of_disabled h op)

/-! ## Keys -/

/-- After any operations, a registry with memory remembers exactly what the requests since the last
change have left behind, so it is the set of these requests that counts: requests in another order
or more often leave the same keys, and as many. A registry without memory remembers nothing. -/
theorem keys_free_of_order (types : TypeSystem σ α) (flags : SearchFlags)
    (ops : List (Operation σ α)) :
    let r := ((new types ⟨flags, true⟩).run ops).2
    let asked := (new types ⟨flags, true⟩).askedSince [] ops
    let after (batch : List Request) := (r.clearCache.run (batch.map .resolve)).2
    (r.keys = asked.toFinset.biUnion r.keysOf ∧
      r.cachedResolutions = (asked.toFinset.biUnion r.keysOf).card) ∧
    (∀ batch others : List Request, batch.toFinset = others.toFinset →
      (after batch).keys = (after others).keys ∧
        (after batch).cachedResolutions = (after others).cachedResolutions) ∧
    ((new types ⟨flags, false⟩).run ops).2.cachedResolutions = 0 := by
  intro r asked after
  have hrun : r.Remembers asked :=
    (Remembers.nothing rfl rfl).run (coherent_of_cache_eq_nil rfl) ops
  refine ⟨⟨hrun.keys_eq, hrun.cachedResolutions_eq⟩, ?_, ?_⟩
  · intro batch others same
    have hbatch := remembers_requests hrun.enabled batch
    have hothers := remembers_requests hrun.enabled others
    have hsame : (after batch).keysOf = (after others).keysOf :=
      (run_requests_contents r.clearCache batch).keysOf_eq.trans
        (run_requests_contents r.clearCache others).keysOf_eq.symm
    constructor
    · rw [hbatch.keys_eq, hothers.keys_eq, same, hsame]
    · rw [hbatch.cachedResolutions_eq, hothers.cachedResolutions_eq, same, hsame]
  · exact congrArg List.length (cache_run_of_disabled ⟨rfl, rfl⟩ ops)

end Registry

end Provision
