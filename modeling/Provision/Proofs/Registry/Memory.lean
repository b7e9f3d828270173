import Provision.Proofs.Registry.Contents
import Provision.Proofs.SearchFlags
import Provision.Proofs.Stage.Outcome

/-! # Memory does not change what a registry says

Each remembered result is what the request yields from the present contents. Every operation keeps
this, so registries with and without memory say the same. -/

namespace Provision

/-! ## Normal requests -/

namespace Request

theorem normalized_normalized (request : Request) :
    request.normalized.normalized = request.normalized := by
  cases request with
  | mk context query time flags =>
      cases time <;> simp [normalized, SearchFlags.normalizedFor, Time.isNow,
        SearchFlags.without_without]

theorem normalized_of_fallback {request next : Request} (h : request.fallback? = some next) :
    next.normalized = next ∧ next.time = .now := by
  simp only [fallback?] at h
  split at h
  · obtain rfl := Option.some.inj h
    exact ⟨normalized_normalized _, rfl⟩
  · simp at h

theorem fallback?_of_now {request : Request} (h : request.time = .now) :
    request.fallback? = none := by
  simp [fallback?, h, Time.isNow]

end Request

namespace Registry

variable {σ α : Type}

/-! ## Answers -/

theorem answer_normalized (r : Registry σ α) (request : Request) :
    r.answer request.normalized = r.answer request := by
  simp only [answer, Request.normalized_normalized]

theorem answer_of_fallback (r : Registry σ α) {request next : Request}
    (h : request.fallback? = some next) : r.answer next = r.answerAtTime next := by
  obtain ⟨hnormal, hnow⟩ := Request.normalized_of_fallback h
  simp only [answer, hnormal, Request.fallback?_of_now hnow]
  split
  · rfl
  · rename_i hinconclusive
    exact (Resolution.eq_empty_of_not_conclusive (by simpa using hinconclusive)).symm

/-! ## Remembered results -/

/-- Every remembered result is what its request yields from the present contents. -/
def Coherent (r : Registry σ α) : Prop :=
  ∀ request result, (request, result) ∈ r.cache → result = r.answer request

/-- A request has been answered: with what it yields from the contents, and without a change other
than in what is remembered. -/
structure Answered (r : Registry σ α) (request : Request)
    (outcome : Resolution σ α × Registry σ α) : Prop where
  result : outcome.1 = r.answer request
  contents : r.SameContents outcome.2
  coherent : outcome.2.Coherent

theorem SameContents.answer_eq {r u : Registry σ α} (h : r.SameContents u) (request : Request) :
    u.answer request = r.answer request := by
  rw [h]
  rfl

theorem coherent_of_cache_eq_nil {r : Registry σ α} (h : r.cache = []) : r.Coherent := by
  intro request result hmem
  simp [h] at hmem

theorem remember_coherent {r : Registry σ α} (h : r.Coherent) (request : Request) :
    (r.remember request (r.answer request)).Coherent := by
  unfold remember
  split
  · intro asked result hmem
    rcases List.mem_cons.mp hmem with heq | hmem
    · obtain ⟨rfl, rfl⟩ := Prod.mk.inj heq
      rfl
    · exact h asked result (List.mem_filter.mp hmem).1
  · exact h

theorem remembered?_eq_answer {r : Registry σ α} (h : r.Coherent) {request : Request}
    {result : Resolution σ α} (hresult : r.remembered? request = some result) :
    result = r.answer request := by
  unfold remembered? at hresult
  split at hresult
  · obtain ⟨before, after, hcache, -⟩ := List.lookup_eq_some_iff.mp hresult
    exact h request result (by simp [hcache])
  · simp at hresult

theorem answerOnce_answered {r : Registry σ α} (h : r.Coherent) {request : Request}
    {compute : Registry σ α → Resolution σ α × Registry σ α}
    (hcompute : r.Answered request (compute r)) :
    r.Answered request (r.answerOnce request compute) := by
  unfold answerOnce
  cases hmemory : r.remembered? request with
  | some result => exact ⟨remembered?_eq_answer h hmemory, rfl, h⟩
  | none =>
      have hgrown : (compute r).1 = (compute r).2.answer request := by
        rw [hcompute.result, hcompute.contents.answer_eq]
      refine ⟨hcompute.result, hcompute.contents.trans (remember_contents _ _ _), ?_⟩
      dsimp only
      rw [hgrown]
      exact remember_coherent hcompute.coherent request

/-- A request is answered with what it yields from the contents, from memory or not. -/
theorem resolve_answered {r : Registry σ α} (h : r.Coherent) (request : Request) :
    r.Answered request (r.resolve request) := by
  have hnormal : r.Answered request.normalized (r.resolve request) := by
    unfold resolve
    refine answerOnce_answered h ?_
    cases hconclusive : (r.answerAtTime request.normalized).isConclusive with
    | true =>
        simp only [hconclusive, if_true]
        refine ⟨?_, rfl, h⟩
        simp [answer, Request.normalized_normalized, hconclusive]
    | false =>
        simp only [hconclusive, Bool.false_eq_true, if_false]
        cases hnext : request.normalized.fallback? with
        | none =>
            refine ⟨?_, rfl, h⟩
            simp [answer, Request.normalized_normalized, hconclusive, hnext]
        | some next =>
            have hnextAnswer := answer_of_fallback r hnext
            have hanswered : r.Answered next
                (r.answerOnce next fun r => (r.answerAtTime next, r)) :=
              answerOnce_answered h ⟨hnextAnswer.symm, rfl, h⟩
            refine ⟨?_, hanswered.contents, hanswered.coherent⟩
            rw [hanswered.result, hnextAnswer]
            simp [answer, Request.normalized_normalized, hconclusive, hnext]
  exact ⟨hnormal.result.trans (answer_normalized r request), hnormal.contents, hnormal.coherent⟩

theorem SameContents.types_eq {r u : Registry σ α} (h : r.SameContents u) : u.types = r.types := by
  rw [h]

/-! ## Questions under the default flags -/

namespace Coherent

variable {r : Registry σ α}

theorem resolveNow_eq (h : r.Coherent) (context : TypeId) (query : Query) :
    (r.resolveNow context query).1 =
      r.answer ⟨context, query, .now, r.settings.defaultFlags⟩ :=
  (resolve_answered h _).result

theorem require_eq (h : r.Coherent) (context valueType : TypeId) (time : Time) :
    (r.require context valueType time).1 =
      let strict := r.answer
        ⟨context, .type valueType, time, r.settings.defaultFlags.without .conversion⟩
      if strict.isMultiple || strict.isRefused then strict.demand r.types context valueType
      else (r.answer ⟨context, .type valueType, time, r.settings.defaultFlags⟩).demand r.types
        context valueType := by
  have hstrict := resolve_answered h
    ⟨context, .type valueType, time, r.settings.defaultFlags.without .conversion⟩
  have hfound := resolve_answered hstrict.coherent
    ⟨context, .type valueType, time, r.settings.defaultFlags⟩
  simp only [require, hstrict.result]
  split
  · rw [hstrict.contents.types_eq]
  · rw [hfound.result, hstrict.contents.answer_eq, hfound.contents.types_eq,
      hstrict.contents.types_eq]

theorem hasTimeStates_eq (h : r.Coherent) (context valueType : TypeId) :
    (r.hasTimeStates context valueType).1 =
      [Time.past, .future].any fun time => (r.answer ⟨context, .type valueType, time,
        r.settings.defaultFlags.without .fallback⟩).isSuccessful := by
  have hpast := resolve_answered h
    ⟨context, .type valueType, .past, r.settings.defaultFlags.without .fallback⟩
  have hfuture := resolve_answered hpast.coherent
    ⟨context, .type valueType, .future, r.settings.defaultFlags.without .fallback⟩
  simp only [hasTimeStates, hpast.result, List.any_cons, List.any_nil, Bool.or_false]
  split
  · rename_i found
    simp [found]
  · rename_i missing
    rw [hfuture.result, hpast.contents.answer_eq]
    simp [missing]

theorem valueOf_eq (h : r.Coherent) (s : σ) (context : Value α) (valueType : TypeId)
    (time : Time) :
    (r.valueOf s context valueType time).1 =
      (r.answer ⟨context.type, .type valueType, time, r.settings.defaultFlags⟩).any?.bind
        (·.get s context) := by
  simp only [valueOf, (resolve_answered h _).result]

end Coherent

/-! ## Registries that differ in memory alone -/

/-- Two registries of the same types, default flags and contents, whatever each remembers. -/
structure Alike (r u : Registry σ α) : Prop where
  types : r.types = u.types
  flags : r.settings.defaultFlags = u.settings.defaultFlags
  buckets : r.buckets = u.buckets
  left : r.Coherent
  right : u.Coherent

namespace Alike

variable {r u : Registry σ α}

theorem answerAtTime_eq (h : Alike r u) (request : Request) :
    r.answerAtTime request = u.answerAtTime request := by
  have hstages : r.stages request = u.stages request := by
    unfold stages
    rw [h.types]
  have hbucket : r.bucket request.time = u.bucket request.time := by
    unfold bucket
    rw [h.buckets]
  rw [answerAtTime, answerAtTime, hstages, hbucket, h.types]

theorem answer_eq (h : Alike r u) (request : Request) : r.answer request = u.answer request := by
  simp only [answer, h.answerAtTime_eq]

theorem isRegistered_eq (h : Alike r u) (p : Provider σ α) :
    r.isRegistered p = u.isRegistered p := by
  simp only [isRegistered, bucket, h.buckets]

theorem resolve (h : Alike r u) (request : Request) :
    (r.resolve request).1 = (u.resolve request).1 ∧
      Alike (r.resolve request).2 (u.resolve request).2 := by
  have hr := resolve_answered h.left request
  have hu := resolve_answered h.right request
  refine ⟨?_, ?_, ?_, ?_, hr.coherent, hu.coherent⟩
  · rw [hr.result, hu.result, h.answer_eq]
  · rw [hr.contents, hu.contents]
    exact h.types
  · rw [hr.contents, hu.contents]
    exact h.flags
  · rw [hr.contents, hu.contents]
    exact h.buckets

theorem register (h : Alike r u) (p : Provider σ α) :
    (r.register p).1 = (u.register p).1 ∧ Alike (r.register p).2 (u.register p).2 := by
  simp only [Registry.register, ← h.types, ← h.isRegistered_eq]
  split
  · exact ⟨rfl, h⟩
  · split
    · exact ⟨rfl, h⟩
    · refine ⟨rfl, rfl, h.flags, ?_, ?_, ?_⟩
      · simp only [Registry.clearCache, h.buckets]
      · exact coherent_of_cache_eq_nil rfl
      · exact coherent_of_cache_eq_nil rfl

theorem unregister (h : Alike r u) (p : Provider σ α) :
    (r.unregister p).1 = (u.unregister p).1 ∧ Alike (r.unregister p).2 (u.unregister p).2 := by
  simp only [unregister_eq, ← h.isRegistered_eq]
  split
  · refine ⟨rfl, h.types, h.flags, ?_, ?_, ?_⟩
    · rw [h.buckets]
    · exact coherent_of_cache_eq_nil rfl
    · exact coherent_of_cache_eq_nil rfl
  · exact ⟨rfl, h⟩

theorem clearCache (h : Alike r u) : Alike r.clearCache u.clearCache :=
  ⟨h.types, h.flags, h.buckets, coherent_of_cache_eq_nil rfl, coherent_of_cache_eq_nil rfl⟩

theorem require (h : Alike r u) (context valueType : TypeId) (time : Time) :
    (r.require context valueType time).1 = (u.require context valueType time).1 ∧
      Alike (r.require context valueType time).2 (u.require context valueType time).2 := by
  simp only [Registry.require, ← h.flags]
  obtain ⟨hstrict, hmid⟩ := h.resolve
    ⟨context, .type valueType, time, r.settings.defaultFlags.without .conversion⟩
  obtain ⟨hresult, hend⟩ := hmid.resolve
    ⟨context, .type valueType, time, r.settings.defaultFlags⟩
  rw [← hstrict]
  split
  · exact ⟨by rw [hmid.types], hmid⟩
  · exact ⟨by rw [hresult, hend.types], hend⟩

theorem hasTimeStates (h : Alike r u) (context valueType : TypeId) :
    (r.hasTimeStates context valueType).1 = (u.hasTimeStates context valueType).1 ∧
      Alike (r.hasTimeStates context valueType).2 (u.hasTimeStates context valueType).2 := by
  simp only [Registry.hasTimeStates, ← h.flags]
  obtain ⟨hpast, hmid⟩ := h.resolve
    ⟨context, .type valueType, .past, r.settings.defaultFlags.without .fallback⟩
  obtain ⟨hfuture, hend⟩ := hmid.resolve
    ⟨context, .type valueType, .future, r.settings.defaultFlags.without .fallback⟩
  rw [← hpast]
  split
  · exact ⟨rfl, hmid⟩
  · exact ⟨by rw [hfuture], hend⟩

theorem step (h : Alike r u) (op : Operation σ α) :
    (r.step op).1 = (u.step op).1 ∧ Alike (r.step op).2 (u.step op).2 := by
  cases op with
  | register p =>
      obtain ⟨hresult, h'⟩ := h.register p
      exact ⟨congrArg Reply.registered hresult, h'⟩
  | unregister p =>
      obtain ⟨hremoved, h'⟩ := h.unregister p
      exact ⟨congrArg Reply.unregistered hremoved, h'⟩
  | resolve request =>
      obtain ⟨hresult, h'⟩ := h.resolve request
      exact ⟨congrArg Reply.resolved hresult, h'⟩
  | resolveNow context query =>
      simp only [Registry.step, Registry.resolveNow, ← h.flags]
      obtain ⟨hresult, h'⟩ := h.resolve ⟨context, query, .now, r.settings.defaultFlags⟩
      exact ⟨congrArg Reply.resolved hresult, h'⟩
  | require context valueType time =>
      obtain ⟨hresult, h'⟩ := h.require context valueType time
      exact ⟨congrArg Reply.demanded hresult, h'⟩
  | valueOf s context valueType time =>
      simp only [Registry.step, Registry.valueOf, ← h.flags]
      obtain ⟨hresult, h'⟩ :=
        h.resolve ⟨context.type, .type valueType, time, r.settings.defaultFlags⟩
      exact ⟨congrArg (fun result => Reply.value (result.any?.bind (·.get s context))) hresult, h'⟩
  | hasTimeStates context valueType =>
      obtain ⟨hresult, h'⟩ := h.hasTimeStates context valueType
      exact ⟨congrArg Reply.timeStates hresult, h'⟩
  | clearCache => exact ⟨rfl, h.clearCache⟩

end Alike

/-- Registries that differ in memory alone say the same to every sequence of operations. -/
theorem run_alike {r u : Registry σ α} (h : Alike r u) (ops : List (Operation σ α)) :
    (r.run ops).1 = (u.run ops).1 ∧ Alike (r.run ops).2 (u.run ops).2 := by
  induction ops generalizing r u with
  | nil => exact ⟨rfl, h⟩
  | cons op ops ih =>
      obtain ⟨hreply, hstep⟩ := h.step op
      obtain ⟨hreplies, hrun⟩ := ih hstep
      simp only [run_cons, hreply, hreplies]
      exact ⟨trivial, hrun⟩

/-- Remembered results never change what a registry says: with memory and without it, it replies
alike to every sequence of operations. -/
theorem replies_eq_without_memory (types : TypeSystem σ α) (flags : SearchFlags)
    (ops : List (Operation σ α)) :
    ((new types ⟨flags, true⟩).run ops).1 = ((new types ⟨flags, false⟩).run ops).1 := by
  have halike : Alike (new types ⟨flags, true⟩) (new types ⟨flags, false⟩) :=
    ⟨rfl, rfl, rfl, coherent_of_cache_eq_nil rfl, coherent_of_cache_eq_nil rfl⟩
  exact (run_alike halike ops).1

/-! ## Reachable registries -/

theorem Reachable.coherent {r : Registry σ α} (h : r.Reachable) : r.Coherent := by
  refine h.invariant ?_ ?_
  · intro types settings
    exact coherent_of_cache_eq_nil rfl
  · intro r op hr
    exact (Alike.step ⟨rfl, rfl, rfl, hr, hr⟩ op).2.left

/-- Whatever was asked before, a request is answered with what it yields from the contents. -/
theorem Reachable.resolve_eq {r : Registry σ α} (h : r.Reachable) (request : Request) :
    (r.resolve request).1 = r.answer request :=
  (resolve_answered h.coherent request).result

end Registry

end Provision
