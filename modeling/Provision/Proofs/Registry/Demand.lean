import Provision.Proofs.Registry.Flags

/-! # Demanding against searching

A demand searches without conversions first, and what is ambiguous or refused there is final. It
tells something else than the whole search in one situation alone: where conversions find something
at another time than the present, which that first search does not look at, and goes on to the
present instead. -/

namespace Provision

variable {σ α : Type}

/-! ## Stages in two parts -/

namespace Stage

section

variable (types : TypeSystem σ α) (context : TypeId) (providers : List (Provider σ α))

theorem firstConclusive_append (first rest : List (Stage σ α)) :
    firstConclusive types context providers (first ++ rest) =
      if (firstConclusive types context providers first).isConclusive then
        firstConclusive types context providers first
      else firstConclusive types context providers rest := by
  induction first with
  | nil => rfl
  | cons stage first ih =>
      cases hstage : (stage.run types context providers).isConclusive with
      | true => simp [firstConclusive, hstage]
      | false => simp [firstConclusive, hstage, ih]

theorem isConclusive_firstConclusive_iff (stages : List (Stage σ α)) :
    (firstConclusive types context providers stages).isConclusive = true ↔
      ∃ stage ∈ stages, (stage.run types context providers).isConclusive = true := by
  induction stages with
  | nil => simp [firstConclusive, Resolution.isConclusive_empty]
  | cons stage stages ih =>
      cases hstage : (stage.run types context providers).isConclusive with
      | true => simp [firstConclusive, hstage]
      | false => simp [firstConclusive, hstage, ih]

end

/-- The stages that go without conversions. -/
def direct (types : TypeSystem σ α) (context valueType : TypeId) : List (Stage σ α) :=
  [.exact types context valueType, .nearest types context valueType]

/-- The stages that conversions add. -/
def converted (types : TypeSystem σ α) (context valueType : TypeId) : List (Stage σ α) :=
  [.narrowing types context valueType, .converting types context valueType]

end Stage

/-! ## What is made of a result -/

namespace Resolution

variable {result : Resolution σ α} {types : TypeSystem σ α} {context valueType : TypeId}

theorem demand_eq_ok_iff {view : View σ α} :
    result.demand types context valueType = .ok view ↔ result = .found [view] := by
  cases result with
  | refused message => simp [demand, unique]
  | found views =>
      match views with
      | [] => simp [demand, unique]
      | [only] => simp [demand, unique]
      | _ :: _ :: _ => simp [demand, unique]

theorem isConclusive_of_useless (h : result.isMultiple = true ∨ result.isRefused = true) :
    result.isConclusive = true := by
  rcases h with ambiguous | refused
  · cases result with
    | refused message => rfl
    | found views =>
        cases views with
        | nil => simp [isMultiple, candidates] at ambiguous
        | cons view views => rfl
  · simp [isConclusive, refused]

theorem demand_of_isRefused (h : result.isRefused = true) :
    result.demand types context valueType =
      .error (.excluded (result.message?.getD Demand.refusal)) := by
  cases result with
  | refused message => rfl
  | found views => simp [isRefused] at h

theorem demand_of_isMultiple (h : result.isMultiple = true) :
    result.demand types context valueType =
      .error (.ambiguous (types.displayName valueType true) (types.displayName valueType false)
        (English.withArticle (types.displayName context false))) := by
  cases result with
  | refused message => simp [isMultiple, candidates] at h
  | found views =>
      cases views with
      | nil => simp [isMultiple, candidates] at h
      | cons first others =>
          cases others with
          | nil => simp [isMultiple, candidates] at h
          | cons second more => rfl

end Resolution

namespace Registry

section

variable (r : Registry σ α) (context valueType : TypeId) (time : Time)

/-- What the providers of a time yield without conversions. -/
def directAt : Resolution σ α :=
  Stage.firstConclusive r.types context (r.bucket time) (Stage.direct r.types context valueType)

/-- What the providers of a time yield by conversions alone. -/
def convertedAt : Resolution σ α :=
  Stage.firstConclusive r.types context (r.bucket time) (Stage.converted r.types context valueType)

/-- Conversions find or refuse something at another time than the present, where nothing else does,
and the search without them falls back to a result of the present that is of no use. -/
structure Overridden : Prop where
  elsewhen : time ≠ .now
  fallback : r.settings.defaultFlags.contains .fallback = true
  conversion : r.settings.defaultFlags.contains .conversion = true
  nothing_direct : ∀ stage ∈ Stage.direct r.types context valueType,
    (r.outcome context (time, stage)).isConclusive = false
  converted : ∃ stage ∈ Stage.converted r.types context valueType,
    (r.outcome context (time, stage)).isConclusive = true
  present : (r.directAt context valueType .now).isMultiple = true ∨
    (r.directAt context valueType .now).isRefused = true

end

section

variable {r : Registry σ α} {context valueType : TypeId} {time : Time}

/-! ## Answers by type in two parts -/

theorem answerAt_type (asked : Time) (flags : SearchFlags) :
    r.answerAt ⟨context, .type valueType, asked, flags⟩ time =
      if (r.directAt context valueType time).isConclusive = false ∧
          flags.contains .conversion = true then
        r.convertedAt context valueType time
      else r.directAt context valueType time := by
  cases conversion : flags.contains .conversion with
  | true =>
      have hstages : (⟨context, .type valueType, asked, flags⟩ : Request).stages r.types =
          Stage.direct r.types context valueType ++ Stage.converted r.types context valueType := by
        simp only [Request.stages, conversion, if_true]
        rfl
      rw [answerAt, hstages, Stage.firstConclusive_append]
      change (if (r.directAt context valueType time).isConclusive then
        r.directAt context valueType time else r.convertedAt context valueType time) = _
      cases (r.directAt context valueType time).isConclusive <;> rfl
  | false =>
      have hstages : (⟨context, .type valueType, asked, flags⟩ : Request).stages r.types =
          Stage.direct r.types context valueType := by
        simp only [Request.stages, conversion, Bool.false_eq_true, if_false]
        rfl
      rw [answerAt, hstages, if_neg (by simp)]
      rfl

theorem answer_strict (flags : SearchFlags) :
    r.answer ⟨context, .type valueType, time, flags.without .conversion⟩ =
      if (r.directAt context valueType time).isConclusive then r.directAt context valueType time
      else if time ≠ .now ∧ flags.contains .fallback = true then r.directAt context valueType .now
      else .empty := by
  have strict : (flags.without .conversion).contains .conversion = false :=
    SearchFlags.contains_without_self (by decide) flags
  have fallback : (flags.without .conversion).contains .fallback = flags.contains .fallback :=
    SearchFlags.contains_without_of_apart (by decide) flags
  rw [answer_eq]
  simp only [answerAt_type, strict, fallback, Bool.false_eq_true, and_false, if_false]

theorem directAt_isConclusive_eq_false_iff :
    (r.directAt context valueType time).isConclusive = false ↔
      ∀ stage ∈ Stage.direct r.types context valueType,
        (r.outcome context (time, stage)).isConclusive = false := by
  rw [← Bool.not_eq_true, directAt, Stage.isConclusive_firstConclusive_iff]
  simp only [not_exists, not_and, Bool.not_eq_true]
  rfl

theorem convertedAt_isConclusive_iff :
    (r.convertedAt context valueType time).isConclusive = true ↔
      ∃ stage ∈ Stage.converted r.types context valueType,
        (r.outcome context (time, stage)).isConclusive = true :=
  Stage.isConclusive_firstConclusive_iff _ _ _ _

theorem Overridden.answer_eq (h : r.Overridden context valueType time) :
    r.answer ⟨context, .type valueType, time, r.settings.defaultFlags⟩ =
      r.convertedAt context valueType time := by
  have nothing := directAt_isConclusive_eq_false_iff.mpr h.nothing_direct
  have found := convertedAt_isConclusive_iff.mpr h.converted
  rw [Registry.answer_eq]
  simp [answerAt_type, nothing, h.conversion, found]

theorem Overridden.answer_strict (h : r.Overridden context valueType time) :
    r.answer ⟨context, .type valueType, time, r.settings.defaultFlags.without .conversion⟩ =
      r.directAt context valueType .now := by
  have nothing := directAt_isConclusive_eq_false_iff.mpr h.nothing_direct
  simp [Registry.answer_strict, nothing, h.elsewhen, h.fallback]

/-- What is of no use without conversions is what a whole search yields, but in the one
situation. -/
theorem answer_eq_strict (usual : ¬ r.Overridden context valueType time)
    (useless : (r.answer ⟨context, .type valueType, time,
        r.settings.defaultFlags.without .conversion⟩).isMultiple = true ∨
      (r.answer ⟨context, .type valueType, time,
        r.settings.defaultFlags.without .conversion⟩).isRefused = true) :
    r.answer ⟨context, .type valueType, time, r.settings.defaultFlags⟩ =
      r.answer ⟨context, .type valueType, time, r.settings.defaultFlags.without .conversion⟩ := by
  cases conversion : r.settings.defaultFlags.contains .conversion with
  | false =>
      -- there is nothing to take away
      refine answer_congr context _ time ?_ ?_
      · exact (SearchFlags.contains_without_of_apart (by decide) _).symm
      · rw [conversion, SearchFlags.contains_without_self (by decide)]
  | true =>
      cases direct : (r.directAt context valueType time).isConclusive with
      | true => simp [answer_eq, answerAt_type, direct]
      | false =>
          by_cases back : time ≠ .now ∧ r.settings.defaultFlags.contains .fallback = true
          · -- the strict search fell back, and the whole one does unless conversions stop it
            simp only [answer_strict, direct, Bool.false_eq_true, if_false, if_pos back]
              at useless ⊢
            have present : (r.directAt context valueType .now).isConclusive = true :=
              Resolution.isConclusive_of_useless useless
            cases found : (r.convertedAt context valueType time).isConclusive with
            | true =>
                exact absurd ⟨back.1, back.2, conversion,
                  directAt_isConclusive_eq_false_iff.mp direct,
                  convertedAt_isConclusive_iff.mp found, useless⟩ usual
            | false =>
                simp [answer_eq, answerAt_type, direct, conversion, found, back, present]
          · simp [answer_strict, direct, back, Resolution.empty, Resolution.isMultiple,
              Resolution.candidates, Resolution.isRefused] at useless

/-! ## Demands -/

/-- A demand tells what is made of the whole search, unless that is overridden. Then it tells of the
ambiguity or refusal that the present has without conversions, though the search itself yields what
they find at its own time. So what a demand yields is the one candidate of the search, and at the
present the first search never matters. -/
theorem require_against_resolve (reachable : r.Reachable) (context valueType : TypeId)
    (time : Time) :
    let found := (r.resolve ⟨context, .type valueType, time, r.settings.defaultFlags⟩).1
    let demanded := (r.require context valueType time).1
    (¬ r.Overridden context valueType time → demanded = found.demand r.types context valueType) ∧
    (r.Overridden context valueType time →
      found = r.convertedAt context valueType time ∧
      demanded = (r.directAt context valueType .now).demand r.types context valueType ∧
      ((r.directAt context valueType .now).isRefused = true ∧
          demanded = .error (.excluded
            ((r.directAt context valueType .now).message?.getD Demand.refusal)) ∨
        (r.directAt context valueType .now).isMultiple = true ∧
          demanded = .error (.ambiguous (r.types.displayName valueType true)
            (r.types.displayName valueType false)
            (English.withArticle (r.types.displayName context false))))) ∧
    (∀ view, demanded = .ok view → found = .found [view]) ∧
    (time = .now → demanded = found.demand r.types context valueType) := by
  intro found demanded
  have hfound : found = r.answer ⟨context, .type valueType, time, r.settings.defaultFlags⟩ :=
    reachable.resolve_eq _
  have hdemanded : demanded = _ := reachable.coherent.require_eq context valueType time
  have husual (usual : ¬ r.Overridden context valueType time) :
      demanded = found.demand r.types context valueType := by
    rw [hdemanded, hfound]
    dsimp only
    split
    · rename_i useless
      rw [answer_eq_strict usual (by simpa using useless)]
    · rfl
  have hpresent (overridden : r.Overridden context valueType time) :
      demanded = (r.directAt context valueType .now).demand r.types context valueType := by
    rw [hdemanded, overridden.answer_strict]
    rcases overridden.present with ambiguous | refused
    · simp [ambiguous]
    · simp [refused]
  refine ⟨husual, ?_, ?_, ?_⟩
  · intro overridden
    refine ⟨hfound.trans overridden.answer_eq, hpresent overridden, ?_⟩
    rw [hpresent overridden]
    rcases overridden.present with ambiguous | refused
    · exact .inr ⟨ambiguous, Resolution.demand_of_isMultiple ambiguous⟩
    · exact .inl ⟨refused, Resolution.demand_of_isRefused refused⟩
  · intro view hview
    by_cases overridden : r.Overridden context valueType time
    · rw [hpresent overridden] at hview
      rcases overridden.present with ambiguous | refused
      · rw [Resolution.demand_of_isMultiple ambiguous] at hview
        simp at hview
      · rw [Resolution.demand_of_isRefused refused] at hview
        simp at hview
    · rw [husual overridden] at hview
      exact Resolution.demand_eq_ok_iff.mp hview
  · intro present
    exact husual fun overridden => overridden.elsewhen present

end

/-- A demand for a number of the past is refused for what the present excludes, though the message
of the past would be found as a number. It is found as the text that it is. -/
theorem past_number_overridden :
    let excluding := { message with
      valueType := numbers, excluded := [arrays], exclusionMessage := some "not now" }
    let r := ofProviders oneWay [{ message with time := .past }, excluding]
    r.Reachable ∧ r.Overridden arrays numbers .past ∧
      (r.resolve ⟨arrays, .type numbers, .past, .default⟩).1.isSuccessful = true ∧
      (r.require arrays numbers .past).1 = .error (.excluded "not now") ∧
      ∃ view, (r.require arrays texts .past).1 = .ok view ∧
        (r.resolve ⟨arrays, .type texts, .past, .default⟩).1 = .found [view] := by
  intro excluding r
  have reachable : r.Reachable := ofProviders_reachable _ _
  have overridden : r.Overridden arrays numbers .past :=
    { elsewhen := by decide
      fallback := by decide +kernel
      conversion := by decide +kernel
      nothing_direct := by decide +kernel
      converted := by decide +kernel
      present := by decide +kernel }
  have hsuccessful :
      (r.resolve ⟨arrays, .type numbers, .past, .default⟩).1.isSuccessful = true := by
    decide +kernel
  have hmessage : (r.directAt arrays numbers .now).message? = some "not now" := by decide +kernel
  have hmultiple : (r.directAt arrays numbers .now).isMultiple = false := by decide +kernel
  have hdemanded : (r.require arrays texts .past).1.toOption.isSome = true := by decide +kernel
  obtain ⟨-, hpast, -, -⟩ := require_against_resolve reachable arrays numbers .past
  obtain ⟨-, -, hone, -⟩ := require_against_resolve reachable arrays texts .past
  have hflags : r.settings.defaultFlags = .default := by decide +kernel
  refine ⟨reachable, overridden, hsuccessful, ?_, ?_⟩
  · rcases (hpast overridden).2.2 with ⟨-, hexcluded⟩ | ⟨ambiguous, -⟩
    · rw [hexcluded, hmessage]
      rfl
    · simp [hmultiple] at ambiguous
  · cases hview : (r.require arrays texts .past).1 with
    | error e => simp [hview, Except.toOption] at hdemanded
    | ok view => exact ⟨view, rfl, hflags ▸ hone view hview⟩

end Registry

end Provision
