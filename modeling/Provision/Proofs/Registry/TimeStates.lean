import Provision.Proofs.Registry.Candidates
import Provision.Proofs.Registry.ExactPriority
import Provision.Proofs.Registry.Flags
import Provision.Proofs.Registry.Refusal
import Provision.Proofs.Registry.Slots

/-! # Values of the past and of the future

Whether a value has a past or a future is asked without falling back. That is the same as to ask
whether a search that may fall back hands out anything that is not of the present. -/

namespace Provision

variable {σ α : Type}

namespace Registry

variable {r : Registry σ α}

/-! ## Answers of one time -/

theorem answerAt_congr (context : TypeId) (query : Query) (asked time : Time)
    {flags others : SearchFlags}
    (conversion : others.contains .conversion = flags.contains .conversion) :
    r.answerAt ⟨context, query, asked, others⟩ time =
      r.answerAt ⟨context, query, asked, flags⟩ time := by
  have hstages : (⟨context, query, asked, others⟩ : Request).stages r.types =
      (⟨context, query, asked, flags⟩ : Request).stages r.types :=
    Request.stages_congr r.types rfl rfl fun _ => conversion
  rw [answerAt, answerAt, hstages]

theorem answer_without_fallback (context : TypeId) (query : Query) (time : Time)
    (flags : SearchFlags) :
    r.answer ⟨context, query, time, flags.without .fallback⟩ =
      r.answerAt ⟨context, query, time, flags⟩ time := by
  have stays : (flags.without .fallback).contains .fallback = false :=
    SearchFlags.contains_without_self (by decide) flags
  have conversion : (flags.without .fallback).contains .conversion = flags.contains .conversion :=
    SearchFlags.contains_without_of_apart (by decide) flags
  rw [answer_eq]
  simp only [answerAt_congr context query time time conversion, stays, Bool.false_eq_true,
    and_false, if_false]
  split
  · rfl
  · rename_i inconclusive
    exact (Resolution.eq_empty_of_not_conclusive (by simpa using inconclusive)).symm

theorem answer_now (context : TypeId) (query : Query) (flags : SearchFlags) :
    r.answer ⟨context, query, .now, flags⟩ =
      r.answerAt ⟨context, query, .now, flags⟩ .now := by
  rw [← answer_without_fallback]
  exact (answer_now_congr context query
    (SearchFlags.contains_without_of_apart (by decide) flags)).symm

theorem time_of_mem_answerAt (reachable : r.Reachable) {request : Request} {time : Time}
    {view : View σ α} (h : view ∈ (r.answerAt request time).candidates) :
    view.provider.time = time := by
  have known := reachable.typesKnown time
  obtain ⟨p, hp, -, -, hshows⟩ := answerAt_shown (fun p hp => (known p hp).2) h
  obtain rfl := hshows.provider_eq
  exact reachable.slotsApart.time time _ hp

/-- A search hands out what is not of the present exactly if its own time has something. -/
theorem exists_elsewhen_iff (reachable : r.Reachable) (request : Request)
    (elsewhen : request.time ≠ .now) :
    (∃ view ∈ (r.answer request).candidates, view.provider.time ≠ .now) ↔
      (r.answerAt request request.time).isSuccessful = true := by
  constructor
  · rintro ⟨view, hview, hpast⟩
    obtain ⟨time, htime, hat⟩ := mem_candidates_answer hview
    have hown := time_of_mem_answerAt reachable hat
    rcases Request.mem_times.mp htime with rfl | ⟨-, -, rfl⟩
    · cases hcandidates : (r.answerAt request request.time).candidates with
      | nil => simp [hcandidates] at hat
      | cons first rest => simp [Resolution.isSuccessful, Resolution.isEmpty, hcandidates]
    · exact absurd hown hpast
  · intro successful
    have conclusive : (r.answerAt request request.time).isConclusive = true := by
      simp [Resolution.isConclusive, successful]
    cases hcandidates : (r.answerAt request request.time).candidates with
    | nil => simp [Resolution.isSuccessful, Resolution.isEmpty, hcandidates] at successful
    | cons first rest =>
        have hfirst : first ∈ (r.answerAt request request.time).candidates := by
          simp [hcandidates]
        refine ⟨first, ?_, ?_⟩
        · rwa [answer_eq, if_pos conclusive]
        · rwa [time_of_mem_answerAt reachable hfirst]

theorem exists_firstObjector_of_answerAt {request : Request} {time : Time}
    (h : (r.answerAt request time).isRefused = true) :
    ∃ stage ∈ request.stages r.types, ∃ p,
      stage.FirstObjector r.types request.context (r.bucket time) p ∧
        r.answerAt request time =
          .refused (p.validate r.types.tree request.context).message? := by
  rw [answerAt, Stage.firstConclusive_eq_find] at h ⊢
  cases hfind : (request.stages r.types).find? fun stage =>
      (stage.run r.types request.context (r.bucket time)).isConclusive with
  | none => simp [hfind, Resolution.empty, Resolution.isRefused] at h
  | some stage =>
      rw [hfind] at h
      have objects := (Stage.isRefused_run_iff _ _ _ _).mp h
      obtain ⟨p, hp, hrefused⟩ := Stage.exists_firstObjector_of_objects _ _ _ _ objects
      exact ⟨stage, List.mem_of_find?_eq_some hfind, p, hp, hrefused⟩

/-! ## Time states -/

theorem hasTimeStates_iff (reachable : r.Reachable) (context valueType : TypeId) :
    (r.hasTimeStates context valueType).1 = true ↔
      ∃ time, time ≠ .now ∧ (r.answerAt
        ⟨context, .type valueType, time, r.settings.defaultFlags⟩ time).isSuccessful = true := by
  rw [reachable.coherent.hasTimeStates_eq]
  simp only [answer_without_fallback, List.any_eq_true]
  constructor
  · rintro ⟨time, htime, successful⟩
    refine ⟨time, ?_, successful⟩
    rintro rfl
    simp at htime
  · rintro ⟨time, elsewhen, successful⟩
    refine ⟨time, ?_, successful⟩
    cases time with
    | now => exact absurd rfl elsewhen
    | _ => simp

/-- A search for another time than the present that finds nothing there is refused there, or goes on
to the present if it may fall back, or ends empty if it may not. -/
theorem answer_of_nothing_at_time {context : TypeId} {query : Query} {time : Time}
    {flags : SearchFlags} (elsewhen : time ≠ .now)
    (nothing : (r.answerAt ⟨context, query, time, flags⟩ time).isSuccessful = false) :
    (r.answer ⟨context, query, time, flags⟩ = r.answerAt ⟨context, query, time, flags⟩ time ∧
      (r.answerAt ⟨context, query, time, flags⟩ time).isRefused = true) ∨
    (flags.contains .fallback = true ∧
      r.answer ⟨context, query, time, flags⟩ = r.answer ⟨context, query, .now, flags⟩) ∨
    (flags.contains .fallback = false ∧ r.answer ⟨context, query, time, flags⟩ = .empty) := by
  rw [answer_eq]
  dsimp only
  cases refused : (r.answerAt ⟨context, query, time, flags⟩ time).isRefused with
  | true => simp [Resolution.isConclusive, refused]
  | false =>
      have inconclusive : (r.answerAt ⟨context, query, time, flags⟩ time).isConclusive = false := by
        simp [Resolution.isConclusive, refused, nothing]
      rw [if_neg (by simp [inconclusive])]
      cases fallback : flags.contains .fallback with
      | true =>
          rw [if_pos ⟨elsewhen, rfl⟩, answer_now]
          exact .inr (.inl ⟨rfl, rfl⟩)
      | false =>
          rw [if_neg (by simp)]
          exact .inr (.inr ⟨rfl, rfl⟩)

theorem hasTimeStates_of_exact (reachable : r.Reachable) {context valueType : TypeId}
    (h : r.hasExactTimeStates context valueType = true) :
    (r.hasTimeStates context valueType).1 = true := by
  obtain ⟨time, htime, successful⟩ := List.any_eq_true.mp h
  have conclusive : (r.resolveExact context valueType time).isConclusive = true := by
    simp [Resolution.isConclusive, successful]
  rw [reachable.coherent.hasTimeStates_eq]
  refine List.any_eq_true.mpr ⟨time, htime, ?_⟩
  rw [answer_eq_resolveExact conclusive]
  exact successful

/-- A value has time states exactly if the search for its past or that for its future, under the
default flags, hands out something that is not of the present. Where it has none, either search is
refused by a provider of its own time, or else yields what the search for the present does if it may
fall back, and nothing if it may not. Exact time states are time states. -/
theorem timeStates_meaning (reachable : r.Reachable) (context valueType : TypeId) :
    let request (time : Time) : Request :=
      ⟨context, .type valueType, time, r.settings.defaultFlags⟩
    let found (time : Time) := (r.resolve (request time)).1
    ((r.hasTimeStates context valueType).1 = true ↔
      ∃ time, time ≠ .now ∧ ∃ view ∈ (found time).candidates, view.provider.time ≠ .now) ∧
    ((r.hasTimeStates context valueType).1 = false →
      ∀ time, time ≠ .now →
        (∃ stage ∈ (request time).stages r.types, ∃ p,
          stage.FirstObjector r.types context (r.bucket time) p ∧
            found time = .refused (p.validate r.types.tree context).message?) ∨
        (r.settings.defaultFlags.contains .fallback = true ∧ found time = found .now) ∨
        (r.settings.defaultFlags.contains .fallback = false ∧ found time = .empty)) ∧
    (r.hasExactTimeStates context valueType = true →
      (r.hasTimeStates context valueType).1 = true) := by
  intro request found
  simp only [found, reachable.resolve_eq]
  refine ⟨?_, ?_, hasTimeStates_of_exact reachable⟩
  · rw [hasTimeStates_iff reachable]
    exact exists_congr fun time => and_congr_right fun elsewhen =>
      (exists_elsewhen_iff reachable (request time) elsewhen).symm
  · intro none time elsewhen
    have nothing : (r.answerAt (request time) time).isSuccessful = false := by
      rw [← Bool.not_eq_true]
      intro successful
      have some := (hasTimeStates_iff reachable context valueType).mpr ⟨time, elsewhen, successful⟩
      simp [some] at none
    rcases answer_of_nothing_at_time elsewhen nothing with ⟨heq, refused⟩ | present | empty
    · obtain ⟨stage, hstage, p, hp, hrefused⟩ := exists_firstObjector_of_answerAt refused
      exact .inl ⟨stage, hstage, p, hp, heq.trans hrefused⟩
    · exact .inr (.inl present)
    · exact .inr (.inr empty)

/-- Texts of arrays in the future and arrays of arrays in the present, over settings. -/
def futureTexts (settings : Settings) : Registry Unit Unit :=
  ((new oneWay settings).run [
    .register { message with time := .future },
    .register { message with valueType := arrays, getter := fun _ _ => none }]).2

/-- Numbers have a future where texts have one, by conversion. Arrays have neither past nor future,
so that a search for these goes back to the present if it may, and finds nothing if it may not. -/
theorem future_numbers_from_texts :
    let found (r : Registry Unit Unit) (valueType : TypeId) (time : Time) :=
      (r.resolve ⟨arrays, .type valueType, time, r.settings.defaultFlags⟩).1
    let lenient := futureTexts {}
    let strict := futureTexts { defaultFlags := .conversion }
    lenient.Reachable ∧ lenient.hasExactTimeStates arrays numbers = false ∧
      (∃ time, time ≠ .now ∧
        ∃ view ∈ (found lenient numbers time).candidates, view.provider.time ≠ .now) ∧
      (lenient.hasTimeStates arrays arrays).1 = false ∧
      (∀ time, time ≠ .now →
        found lenient arrays time = found lenient arrays .now ∧
          (found lenient arrays time).isSuccessful = true) ∧
      strict.Reachable ∧ (strict.hasTimeStates arrays arrays).1 = false ∧
      ∀ time, time ≠ .now → found strict arrays time = .empty := by
  intro found lenient strict
  have reachable : lenient.Reachable := ⟨_, _, _, rfl⟩
  have reachable' : strict.Reachable := ⟨_, _, _, rfl⟩
  have hnumbers : (lenient.hasTimeStates arrays numbers).1 = true := by decide +kernel
  have harrays : (lenient.hasTimeStates arrays arrays).1 = false := by decide +kernel
  have harrays' : (strict.hasTimeStates arrays arrays).1 = false := by decide +kernel
  have flags : lenient.settings.defaultFlags.contains .fallback = true := by decide +kernel
  have flags' : strict.settings.defaultFlags.contains .fallback = false := by decide +kernel
  have not_refused {r : Registry Unit Unit} {time : Time} {message : Option String}
      (h : (found r arrays time).isRefused = false) : found r arrays time ≠ .refused message := by
    intro heq
    simp [heq, Resolution.isRefused] at h
  refine ⟨reachable, by decide +kernel, (timeStates_meaning reachable arrays numbers).1.mp hnumbers,
    harrays, ?_, reachable', harrays', ?_⟩
  · intro time elsewhen
    have unrefused : (found lenient arrays time).isRefused = false := by
      cases time <;> decide +kernel
    have present : (found lenient arrays .now).isSuccessful = true := by decide +kernel
    rcases (timeStates_meaning reachable arrays arrays).2.1 harrays time elsewhen with
      ⟨_, _, _, _, refused⟩ | ⟨-, same⟩ | ⟨stays, -⟩
    · exact absurd refused (not_refused unrefused)
    · have hpresent : found lenient arrays time = found lenient arrays .now := same
      exact ⟨hpresent, hpresent ▸ present⟩
    · cases flags.symm.trans stays
  · intro time elsewhen
    have unrefused : (found strict arrays time).isRefused = false := by
      cases time <;> decide +kernel
    rcases (timeStates_meaning reachable' arrays arrays).2.1 harrays' time elsewhen with
      ⟨_, _, _, _, refused⟩ | ⟨falls, -⟩ | ⟨-, empty⟩
    · exact absurd refused (not_refused unrefused)
    · cases flags'.symm.trans falls
    · exact empty

end Registry

end Provision
