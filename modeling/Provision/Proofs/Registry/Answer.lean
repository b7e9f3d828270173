import Mathlib.Data.List.Find
import Provision.Proofs.Registry.Memory

/-! # How an answer comes about

A request goes through the stages of its query over the providers of its own time, and over those
of the present if it may fall back. The first conclusive stage gives the answer. -/

namespace Provision

namespace Request

def times (request : Request) : List Time :=
  if request.time ≠ .now ∧ request.flags.contains .fallback = true then [request.time, .now]
  else [request.time]

theorem mem_times {request : Request} {time : Time} :
    time ∈ request.times ↔ time = request.time ∨
      request.time ≠ .now ∧ request.flags.contains .fallback = true ∧ time = .now := by
  unfold times
  split <;> simp_all

end Request

variable {σ α : Type}

/-- The stages that a request goes through at each of its times, in order: one by identifier, and
two or four by type. -/
def Request.stages (request : Request) (types : TypeSystem σ α) : List (Stage σ α) :=
  match request.query with
  | .identifier text => [.identified types request.context text]
  | .type valueType =>
    if request.flags.contains .conversion then
      [.exact types request.context valueType, .nearest types request.context valueType,
        .narrowing types request.context valueType, .converting types request.context valueType]
    else [.exact types request.context valueType, .nearest types request.context valueType]

theorem Request.mem_stages {request : Request} {types : TypeSystem σ α} {stage : Stage σ α}
    (h : stage ∈ request.stages types) :
    (∃ text, request.query = .identifier text ∧
      stage = .identified types request.context text) ∨
    ∃ valueType, request.query = .type valueType ∧
      (stage = .exact types request.context valueType ∨
        stage = .nearest types request.context valueType ∨
        request.flags.contains .conversion = true ∧
          (stage = .narrowing types request.context valueType ∨
            stage = .converting types request.context valueType)) := by
  unfold stages at h
  cases hquery : request.query with
  | identifier text =>
      rw [hquery] at h
      exact .inl ⟨text, rfl, List.mem_singleton.mp h⟩
  | type valueType =>
      simp only [hquery] at h
      refine .inr ⟨valueType, rfl, ?_⟩
      split at h
      · rename_i conversion
        simpa [conversion] using h
      · rename_i direct
        simpa [direct] using h

/-- All that a request goes through, in order: a stage with the time of its providers. -/
def Request.plan (request : Request) (types : TypeSystem σ α) : List (Time × Stage σ α) :=
  request.times.flatMap fun time => (request.stages types).map fun stage => (time, stage)

/-! ## The first conclusive stage -/

theorem Stage.firstConclusive_eq_find (types : TypeSystem σ α) (context : TypeId)
    (providers : List (Provider σ α)) (stages : List (Stage σ α)) :
    firstConclusive types context providers stages =
      match stages.find? fun stage => (stage.run types context providers).isConclusive with
      | some stage => stage.run types context providers
      | none => .empty := by
  induction stages with
  | nil => rfl
  | cons stage rest ih =>
      cases hstage : (stage.run types context providers).isConclusive with
      | true => simp [firstConclusive, hstage]
      | false => simp [firstConclusive, hstage, ih]

namespace Registry

/-- What a stage yields over the providers of a time. -/
def outcome (r : Registry σ α) (context : TypeId) (tried : Time × Stage σ α) : Resolution σ α :=
  tried.2.run r.types context (r.bucket tried.1)

theorem stages_eq (r : Registry σ α) {request asked : Request}
    (context : asked.context = request.context) (query : asked.query = request.query)
    (conversion : asked.flags.contains .conversion = request.flags.contains .conversion) :
    r.stages asked = request.stages r.types := by
  unfold stages Request.stages
  rw [context, query, conversion]
  cases request.query with
  | identifier text => rfl
  | type valueType => cases request.flags.contains .conversion <;> rfl

/-- What the stages of a request yield over the providers of one time. -/
def answerAt (r : Registry σ α) (request : Request) (time : Time) : Resolution σ α :=
  Stage.firstConclusive r.types request.context (r.bucket time) (request.stages r.types)

theorem answerAtTime_normalized (r : Registry σ α) (request : Request) :
    r.answerAtTime request.normalized = r.answerAt request request.time := by
  have hstages : r.stages request.normalized = request.stages r.types :=
    stages_eq r rfl rfl (SearchFlags.contains_conversion_normalizedFor _ _)
  rw [answerAtTime, hstages]
  rfl

theorem answerAtTime_fallback (r : Registry σ α) {request next : Request}
    (h : request.normalized.fallback? = some next) :
    r.answerAtTime next = r.answerAt request .now := by
  unfold Request.fallback? at h
  split at h
  · obtain rfl := Option.some.inj h
    have hstages : r.stages ({ request.normalized with time := .now } : Request).normalized =
        request.stages r.types := by
      refine stages_eq r rfl rfl ?_
      exact (SearchFlags.contains_conversion_normalizedFor _ _).trans
        (SearchFlags.contains_conversion_normalizedFor _ _)
    rw [answerAtTime, hstages]
    rfl
  · simp at h

/-- The answer is that of the request's own time if it is conclusive, and else that of the present
if the request may fall back. -/
theorem answer_eq (r : Registry σ α) (request : Request) :
    r.answer request =
      if (r.answerAt request request.time).isConclusive then r.answerAt request request.time
      else if request.time ≠ .now ∧ request.flags.contains .fallback = true then
        r.answerAt request .now
      else .empty := by
  have hfallback : request.normalized.fallback?.isSome = true ↔
      request.time ≠ .now ∧ request.flags.contains .fallback = true := by
    cases request with
    | mk context query time flags =>
        cases time <;> simp [Request.fallback?, Request.normalized, SearchFlags.normalizedFor,
          Time.isNow]
  rw [answer, answerAtTime_normalized]
  cases hnext : request.normalized.fallback? with
  | none => simp [← hfallback, hnext]
  | some next => simp [← hfallback, hnext, answerAtTime_fallback r hnext]

/-- The first conclusive stage of a plan over one time. -/
def firstAt? (r : Registry σ α) (request : Request) (time : Time) : Option (Time × Stage σ α) :=
  ((request.stages r.types).map fun stage => (time, stage)).find? fun tried =>
    (r.outcome request.context tried).isConclusive

theorem answerAt_eq_find (r : Registry σ α) (request : Request) (time : Time) :
    r.answerAt request time =
      match r.firstAt? request time with
      | some tried => r.outcome request.context tried
      | none => .empty := by
  rw [answerAt, Stage.firstConclusive_eq_find, firstAt?, List.find?_map]
  simp only [Function.comp_def, outcome]
  cases (request.stages r.types).find? fun stage =>
    (stage.run r.types request.context (r.bucket time)).isConclusive <;> rfl

theorem answer_eq_find (r : Registry σ α) (request : Request) :
    r.answer request =
      match (request.plan r.types).find? fun tried =>
        (r.outcome request.context tried).isConclusive with
      | some tried => r.outcome request.context tried
      | none => .empty := by
  have hfind : ((request.plan r.types).find? fun tried =>
      (r.outcome request.context tried).isConclusive) =
        (r.firstAt? request request.time).or
          (if request.time ≠ .now ∧ request.flags.contains .fallback = true then
            r.firstAt? request .now
          else none) := by
    unfold Request.plan Request.times firstAt?
    split <;> simp [List.find?_append]
  rw [hfind, answer_eq]
  cases hfirst : r.firstAt? request request.time with
  | some tried =>
      have hconclusive : (r.outcome request.context tried).isConclusive = true := by
        unfold firstAt? at hfirst
        have htried := List.find?_some hfirst
        exact htried
      simp [answerAt_eq_find, hfirst, hconclusive]
  | none =>
      have hempty : (.empty : Resolution σ α).isConclusive = false := rfl
      simp only [answerAt_eq_find, hfirst, hempty, Bool.false_eq_true, if_false, Option.none_or]
      split
      · rfl
      · rfl

theorem exists_outcome_of_candidates {r : Registry σ α} {request : Request}
    (h : (r.answer request).candidates ≠ []) :
    ∃ time ∈ request.times, ∃ stage ∈ request.stages r.types,
      r.answer request = r.outcome request.context (time, stage) := by
  rw [answer_eq_find] at h ⊢
  cases hfind : (request.plan r.types).find? fun tried =>
      (r.outcome request.context tried).isConclusive with
  | none => simp [hfind, Resolution.empty, Resolution.candidates] at h
  | some tried =>
      obtain ⟨time, htime, htried⟩ := List.mem_flatMap.mp (List.mem_of_find?_eq_some hfind)
      obtain ⟨stage, hstage, rfl⟩ := List.mem_map.mp htried
      exact ⟨time, htime, stage, hstage, rfl⟩

/-- A search comes to a stage of its plan past all stages before it, none of which is
conclusive. -/
structure Reaches (r : Registry σ α) (request : Request) (passed : List (Time × Stage σ α))
    (tried : Time × Stage σ α) : Prop where
  planned : passed ++ [tried] <+: request.plan r.types
  undecided : ∀ earlier ∈ passed, (r.outcome request.context earlier).isConclusive = false

/-- Where a stage that a search comes to is conclusive, it gives the answer. -/
theorem Reaches.answer_eq {r : Registry σ α} {request : Request}
    {passed : List (Time × Stage σ α)} {tried : Time × Stage σ α}
    (h : r.Reaches request passed tried)
    (conclusive : (r.outcome request.context tried).isConclusive = true) :
    r.answer request = r.outcome request.context tried := by
  obtain ⟨later, hplan⟩ := h.planned
  have hfind : ((request.plan r.types).find? fun tried =>
      (r.outcome request.context tried).isConclusive) = some tried := by
    rw [List.find?_eq_some_iff_append]
    refine ⟨conclusive, passed, later, by simpa using hplan.symm, ?_⟩
    intro earlier hearlier
    simp [h.undecided earlier hearlier]
  rw [answer_eq_find, hfind]

/-! ## Two registries -/

/-- Where the stages of a plan yield related results over two registries, so does the whole
search, if related results are conclusive alike. -/
theorem answer_related {related : Resolution σ α → Resolution σ α → Prop}
    (conclusive : ∀ result other, related result other → result.isConclusive = other.isConclusive)
    (empty : related .empty .empty) {r u : Registry σ α} (types : u.types = r.types)
    (request : Request)
    (stages : ∀ tried ∈ request.plan r.types,
      related (r.outcome request.context tried) (u.outcome request.context tried)) :
    related (r.answer request) (u.answer request) := by
  have hfind : ((request.plan r.types).find? fun tried =>
      (u.outcome request.context tried).isConclusive) =
        (request.plan r.types).find? fun tried =>
          (r.outcome request.context tried).isConclusive := by
    apply List.find?_congr
    intro tried htried
    exact (conclusive _ _ (stages tried htried)).symm
  rw [answer_eq_find, answer_eq_find, types, hfind]
  cases hfirst : (request.plan r.types).find? fun tried =>
      (r.outcome request.context tried).isConclusive with
  | none => exact empty
  | some tried => exact stages tried (List.mem_of_find?_eq_some hfirst)

end Registry

end Provision
