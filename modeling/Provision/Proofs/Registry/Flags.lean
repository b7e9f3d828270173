import Provision.Proofs.Registry.Answer

/-! # Flags only extend a search

A flag adds to what a search goes through, and what it adds at the end is looked at only where all
before it is inconclusive. Bits without a name add nothing. -/

namespace Provision

variable {σ α : Type}

/-! ## Plans and flags -/

namespace Request

variable {request asked : Request}

theorem times_congr (time : asked.time = request.time)
    (fallback : request.time ≠ .now →
      asked.flags.contains .fallback = request.flags.contains .fallback) :
    asked.times = request.times := by
  unfold times
  rw [time]
  by_cases now : request.time = .now
  · simp [now]
  · rw [fallback now]

theorem stages_congr (types : TypeSystem σ α) (context : asked.context = request.context)
    (query : asked.query = request.query)
    (conversion : (∃ valueType, request.query = .type valueType) →
      asked.flags.contains .conversion = request.flags.contains .conversion) :
    asked.stages types = request.stages types := by
  unfold stages
  rw [context, query]
  cases hquery : request.query with
  | identifier text => rfl
  | type valueType => rw [conversion ⟨valueType, hquery⟩]

theorem plan_congr (types : TypeSystem σ α) (times : asked.times = request.times)
    (stages : asked.stages types = request.stages types) :
    asked.plan types = request.plan types := by
  rw [plan, plan, times, stages]

theorem stages_prefix_of_conversion (types : TypeSystem σ α)
    (context : asked.context = request.context) (query : asked.query = request.query)
    (conversion : request.flags.contains .conversion = true →
      asked.flags.contains .conversion = true) :
    request.stages types <+: asked.stages types := by
  unfold stages
  rw [context, query]
  cases request.query with
  | identifier text => exact List.prefix_rfl
  | type valueType =>
      cases direct : request.flags.contains .conversion with
      | true =>
          simp only [conversion direct, if_true]
          exact List.prefix_rfl
      | false =>
          simp only [Bool.false_eq_true, if_false]
          split
          · exact ⟨_, rfl⟩
          · exact List.prefix_rfl

theorem times_prefix_of_fallback (time : asked.time = request.time)
    (fallback : request.flags.contains .fallback = true →
      asked.flags.contains .fallback = true) :
    request.times <+: asked.times := by
  unfold times
  rw [time]
  by_cases back : request.time ≠ .now ∧ request.flags.contains .fallback = true
  · rewrite [if_pos back, if_pos ⟨back.1, fallback back.2⟩]
    exact List.prefix_rfl
  · rw [if_neg back]
    split
    · exact ⟨_, rfl⟩
    · exact List.prefix_rfl

/-- More times for the same stages come at the end of a plan. -/
theorem plan_prefix_of_times (types : TypeSystem σ α) (times : request.times <+: asked.times)
    (stages : asked.stages types = request.stages types) :
    request.plan types <+: asked.plan types := by
  obtain ⟨more, hmore⟩ := times
  refine ⟨more.flatMap fun time => (asked.stages types).map fun stage => (time, stage), ?_⟩
  rw [plan, plan, ← hmore, List.flatMap_append, stages]

theorem plan_prefix_of_stages (types : TypeSystem σ α) (single : request.times = [request.time])
    (times : request.times <+: asked.times) (stages : request.stages types <+: asked.stages types) :
    request.plan types <+: asked.plan types := by
  obtain ⟨more, hmore⟩ := times
  rw [plan, plan, ← hmore, single]
  simp only [List.singleton_append, List.flatMap_cons, List.flatMap_nil, List.append_nil]
  exact (stages.map _).trans (List.prefix_append _ _)

end Request

namespace Registry

variable {r : Registry σ α}

/-! ## Answers and plans -/

theorem answer_eq_of_plan {request asked : Request} (context : asked.context = request.context)
    (plan : asked.plan r.types = request.plan r.types) : r.answer asked = r.answer request := by
  rw [answer_eq_find, answer_eq_find, context, plan]

/-- What ends a search also ends one that goes on from there. -/
theorem answer_eq_of_prefix {request asked : Request} (context : asked.context = request.context)
    (longer : request.plan r.types <+: asked.plan r.types)
    (conclusive : (r.answer request).isConclusive = true) : r.answer asked = r.answer request := by
  rw [answer_eq_find] at conclusive
  rw [answer_eq_find, answer_eq_find, context]
  cases hfind : (request.plan r.types).find? fun tried =>
      (r.outcome request.context tried).isConclusive with
  | none =>
      rw [hfind] at conclusive
      simp [Resolution.empty, Resolution.isConclusive, Resolution.isRefused,
        Resolution.isSuccessful, Resolution.isEmpty, Resolution.candidates] at conclusive
  | some tried => rw [longer.find?_eq_some hfind]

section

variable (context : TypeId) (query : Query) (time : Time) {flags others : SearchFlags}

theorem answer_congr (fallback : others.contains .fallback = flags.contains .fallback)
    (conversion : others.contains .conversion = flags.contains .conversion) :
    r.answer ⟨context, query, time, others⟩ = r.answer ⟨context, query, time, flags⟩ :=
  answer_eq_of_plan rfl (Request.plan_congr r.types (Request.times_congr rfl fun _ => fallback)
    (Request.stages_congr r.types rfl rfl fun _ => conversion))

theorem answer_agree (agree : others.Agree flags) :
    r.answer ⟨context, query, time, others⟩ = r.answer ⟨context, query, time, flags⟩ :=
  answer_congr context query time (agree.contains_eq (by decide)) (agree.contains_eq (by decide))

theorem answer_now_congr (conversion : others.contains .conversion = flags.contains .conversion) :
    r.answer ⟨context, query, .now, others⟩ = r.answer ⟨context, query, .now, flags⟩ :=
  answer_eq_of_plan rfl (Request.plan_congr r.types
    (Request.times_congr rfl fun past => absurd rfl past)
    (Request.stages_congr r.types rfl rfl fun _ => conversion))

theorem answer_identifier_congr (text : String)
    (fallback : others.contains .fallback = flags.contains .fallback) :
    r.answer ⟨context, .identifier text, time, others⟩ =
      r.answer ⟨context, .identifier text, time, flags⟩ := by
  refine answer_eq_of_plan rfl (Request.plan_congr r.types
    (Request.times_congr rfl fun _ => fallback) (Request.stages_congr r.types rfl rfl ?_))
  rintro ⟨valueType, byType⟩
  simp at byType

theorem answer_union_fallback
    (conclusive : (r.answer ⟨context, query, time, flags⟩).isConclusive = true) :
    r.answer ⟨context, query, time, flags.union .fallback⟩ =
      r.answer ⟨context, query, time, flags⟩ := by
  refine answer_eq_of_prefix rfl (Request.plan_prefix_of_times r.types ?_ ?_) conclusive
  · exact Request.times_prefix_of_fallback rfl fun _ => SearchFlags.contains_union_self _ _
  · exact Request.stages_congr r.types rfl rfl fun _ =>
      SearchFlags.contains_union_of_apart (by decide) flags

/-- What is conclusive at its own time stays so, however far the search may go. -/
theorem answer_union_of_no_fallback (direct : flags.contains .fallback = false)
    (conclusive : (r.answer ⟨context, query, time, flags⟩).isConclusive = true)
    (more : SearchFlags) :
    r.answer ⟨context, query, time, flags.union more⟩ =
      r.answer ⟨context, query, time, flags⟩ := by
  have single : (⟨context, query, time, flags⟩ : Request).times = [time] :=
    if_neg fun back => by simp [direct] at back
  refine answer_eq_of_prefix rfl (Request.plan_prefix_of_stages r.types single ?_ ?_) conclusive
  · exact Request.times_prefix_of_fallback rfl fun back =>
      SearchFlags.contains_union_of_contains back more
  · exact Request.stages_prefix_of_conversion r.types rfl rfl fun conversion =>
      SearchFlags.contains_union_of_contains conversion more

end

/-! ## Default flags -/

/-- The registry with other default flags. -/
def withDefault (r : Registry σ α) (flags : SearchFlags) : Registry σ α :=
  { r with settings := { r.settings with defaultFlags := flags } }

section

variable (r) (flags : SearchFlags)

@[simp] theorem withDefault_defaultFlags :
    (r.withDefault flags).settings.defaultFlags = flags := rfl

@[simp] theorem withDefault_types : (r.withDefault flags).types = r.types := rfl

@[simp] theorem answer_withDefault (request : Request) :
    (r.withDefault flags).answer request = r.answer request := rfl

theorem register_withDefault (p : Provider σ α) :
    (r.withDefault flags).register p =
      ((r.register p).1, (r.register p).2.withDefault flags) := by
  have same : (r.withDefault flags).isRegistered p = r.isRegistered p := rfl
  rw [register_eq, register_eq]
  by_cases context : r.types.tree.Known p.contextType
  · by_cases value : r.types.tree.Known p.valueType
    · cases taken : r.isRegistered p with
      | true => simp [context, value, same, taken]
      | false =>
          simp only [withDefault_types, context, value, same, taken, not_true_eq_false, if_false,
            Bool.false_eq_true]
          rfl
    · simp [context, value]
  · simp [context]

theorem unregister_withDefault (p : Provider σ α) :
    (r.withDefault flags).unregister p =
      ((r.unregister p).1, (r.unregister p).2.withDefault flags) := by
  have same : (r.withDefault flags).isRegistered p = r.isRegistered p := rfl
  rw [unregister_eq, unregister_eq, same]
  cases r.isRegistered p <;> rfl

end

/-- Default flags that differ in bits without a name leave all replies as they are. -/
theorem step_withDefault (coherent : r.Coherent) {others : SearchFlags}
    (agree : others.Agree r.settings.defaultFlags) (op : Operation σ α) :
    ((r.withDefault others).step op).1 = (r.step op).1 := by
  have hcoherent : (r.withDefault others).Coherent := coherent
  cases op with
  | register p =>
      simp only [step, register_withDefault]
  | unregister p =>
      simp only [step, unregister_withDefault]
  | resolve request =>
      have hreply : ((r.withDefault others).resolve request).1 = (r.resolve request).1 := by
        rw [(resolve_answered hcoherent request).result, answer_withDefault,
          (resolve_answered coherent request).result]
      exact congrArg Reply.resolved hreply
  | resolveNow context query =>
      have hreply : ((r.withDefault others).resolveNow context query).1 =
          (r.resolveNow context query).1 := by
        simp only [hcoherent.resolveNow_eq, coherent.resolveNow_eq, withDefault_defaultFlags,
          answer_withDefault, answer_agree _ _ _ agree]
      exact congrArg Reply.resolved hreply
  | require context valueType time =>
      have hreply : ((r.withDefault others).require context valueType time).1 =
          (r.require context valueType time).1 := by
        simp only [hcoherent.require_eq, coherent.require_eq, withDefault_defaultFlags,
          withDefault_types, answer_withDefault, answer_agree _ _ _ agree,
          answer_agree _ _ _ (agree.without .conversion)]
      exact congrArg Reply.demanded hreply
  | valueOf s context valueType time =>
      have hreply : ((r.withDefault others).valueOf s context valueType time).1 =
          (r.valueOf s context valueType time).1 := by
        simp only [hcoherent.valueOf_eq, coherent.valueOf_eq, withDefault_defaultFlags,
          answer_withDefault, answer_agree _ _ _ agree]
      exact congrArg Reply.value hreply
  | hasTimeStates context valueType =>
      have hreply : ((r.withDefault others).hasTimeStates context valueType).1 =
          (r.hasTimeStates context valueType).1 := by
        simp only [hcoherent.hasTimeStates_eq, coherent.hasTimeStates_eq,
          withDefault_defaultFlags, answer_withDefault,
          answer_agree _ _ _ (agree.without .fallback)]
      exact congrArg Reply.timeStates hreply
  | clearCache => rfl

/-! ## Searches -/

/-- Flags only extend a search. At the present, falling back has no meaning. What is conclusive
stays the same where a search may fall back, and what is conclusive without falling back stays the
same under all further flags. Conversion has no meaning to a search by identifier, and bits without
a name have none at all, be it in a request or in the default flags. -/
theorem flags_only_extend (reachable : r.Reachable) (context : TypeId) (query : Query)
    (time : Time) (flags : SearchFlags) :
    let found (time : Time) (flags : SearchFlags) := (r.resolve ⟨context, query, time, flags⟩).1
    (found .now (flags.union .fallback) = found .now flags ∧
      found .now (flags.without .fallback) = found .now flags) ∧
    ((found time flags).isConclusive = true →
      found time (flags.union .fallback) = found time flags) ∧
    ((found time (flags.without .fallback)).isConclusive = true →
      ∀ more, found time ((flags.without .fallback).union more) =
        found time (flags.without .fallback)) ∧
    (∀ text, query = .identifier text →
      found time (flags.union .conversion) = found time flags ∧
        found time (flags.without .conversion) = found time flags) ∧
    (∀ others : SearchFlags, others.Agree flags → found time others = found time flags) ∧
    ∀ others : SearchFlags, others.Agree r.settings.defaultFlags →
      ∀ op, ((r.withDefault others).step op).1 = (r.step op).1 := by
  intro found
  have apart : SearchFlags.fallback.bits &&& SearchFlags.conversion.bits = 0 := by decide
  have apart' : SearchFlags.conversion.bits &&& SearchFlags.fallback.bits = 0 := by decide
  have nonempty : SearchFlags.fallback.bits ≠ 0 := by decide
  simp only [found, reachable.resolve_eq]
  refine ⟨⟨?_, ?_⟩, ?_, ?_, ?_, ?_, ?_⟩
  · exact answer_now_congr context query (SearchFlags.contains_union_of_apart apart flags)
  · exact answer_now_congr context query (SearchFlags.contains_without_of_apart apart flags)
  · exact answer_union_fallback context query time
  · intro conclusive more
    exact answer_union_of_no_fallback context query time
      (SearchFlags.contains_without_self nonempty flags) conclusive more
  · rintro text rfl
    exact ⟨answer_identifier_congr context time text
        (SearchFlags.contains_union_of_apart apart' flags),
      answer_identifier_congr context time text
        (SearchFlags.contains_without_of_apart apart' flags)⟩
  · exact fun others agree => answer_agree context query time agree
  · exact fun others agree => step_withDefault reachable.coherent agree

/-- A message of the past is found without flags, and stays the same under any. -/
theorem past_message_under_all_flags :
    let r := ofProviders oneWay [{ message with time := .past }]
    let found (flags : SearchFlags) := (r.resolve ⟨arrays, .type texts, .past, flags⟩).1
    r.Reachable ∧ (found .empty).isConclusive = true ∧ found .fallback = found .empty ∧
      found .conversion = found .empty ∧ found .default = found .empty ∧
      found ⟨4⟩ = found .empty := by
  intro r found
  have reachable : r.Reachable := ofProviders_reachable _ _
  have conclusive : (found .empty).isConclusive = true := by decide +kernel
  obtain ⟨-, hfallback, hmore, -, hothers, -⟩ :=
    flags_only_extend reachable arrays (.type texts) .past .empty
  exact ⟨reachable, conclusive, hfallback conclusive, hmore conclusive .conversion,
    hmore conclusive .default, hothers ⟨4⟩ (by decide)⟩

/-- What was found by falling back gives way to what conversion finds at the time itself. -/
example :
    let r := ofProviders oneWay
      [{ message with time := .past }, { message with valueType := numbers }]
    let times (flags : SearchFlags) :=
      (r.resolve ⟨arrays, .type numbers, .past, flags⟩).1.candidates.map (·.provider.time)
    times .fallback = [.now] ∧ times .default = [.past] := by
  decide +kernel

end Registry

end Provision
