import Provision.Proofs.Registry.Answer
import Provision.Proofs.Stage.Kinds

/-! # What a search hands out

Every candidate fits its request, and is a registered provider itself wherever that provider
fits. -/

namespace Provision

variable {σ α : Type}

namespace Query

/-- The type that is wanted of a provider: the requested one, or what the provider has. -/
def wanted (query : Query) (p : Provider σ α) : TypeId :=
  match query with
  | .identifier _ => p.valueType
  | .type valueType => valueType

/-- Whether values of a type are what is wanted of a provider: that very type, and of a requested
type also one below it. -/
def Accepts (query : Query) (t : TypeTree) (p : Provider σ α) (valueType : TypeId) : Prop :=
  match query with
  | .identifier _ => valueType = p.valueType
  | .type wanted => valueType = wanted ∨ t.subsumes wanted valueType = true

end Query

/-! ## Stages one after the other -/

theorem Stage.mem_candidates_firstConclusive {types : TypeSystem σ α} {context : TypeId}
    {providers : List (Provider σ α)} {stage : Stage σ α} {rest : List (Stage σ α)}
    {view : View σ α}
    (h : view ∈ (firstConclusive types context providers (stage :: rest)).candidates) :
    view ∈ (stage.run types context providers).candidates ∨
      (stage.run types context providers).isConclusive = false ∧
        view ∈ (firstConclusive types context providers rest).candidates := by
  simp only [firstConclusive] at h
  split at h
  · exact .inl h
  · rename_i hinconclusive
    exact .inr ⟨by simpa using hinconclusive, h⟩

theorem Stage.not_mem_candidates_firstConclusive_nil {types : TypeSystem σ α} {context : TypeId}
    {providers : List (Provider σ α)} {view : View σ α} :
    view ∉ (firstConclusive types context providers []).candidates := by
  simp [firstConclusive, Resolution.empty, Resolution.candidates]

namespace Registry

variable {r : Registry σ α} {request : Request} {view : View σ α}

/-- What is found among the providers of one time is one of them, shown as what is wanted. -/
theorem answerAt_shown {time : Time}
    (known : ∀ p ∈ r.bucket time, r.types.tree.Known p.valueType)
    (h : view ∈ (r.answerAt request time).candidates) :
    view.ShownFrom r.types request.context request.query.wanted (r.bucket time) := by
  unfold answerAt Request.stages at h
  cases hquery : request.query with
  | identifier text =>
      rw [hquery] at h
      rcases Stage.mem_candidates_firstConclusive h with h | ⟨-, h⟩
      · exact Stage.identified_shown h
      · exact absurd h Stage.not_mem_candidates_firstConclusive_nil
  | type valueType =>
      rw [hquery] at h
      dsimp only at h
      split at h
      · rcases Stage.mem_candidates_firstConclusive h with h | ⟨-, h⟩
        · exact Stage.exact_shown known h
        rcases Stage.mem_candidates_firstConclusive h with h | ⟨hnearest, h⟩
        · exact Stage.nearest_shown h
        rcases Stage.mem_candidates_firstConclusive h with h | ⟨-, h⟩
        · exact Stage.narrowing_shown (fun p => Stage.unfit_of_nearest_inconclusive hnearest) h
        rcases Stage.mem_candidates_firstConclusive h with h | ⟨-, h⟩
        · exact Stage.converting_shown h
        · exact absurd h Stage.not_mem_candidates_firstConclusive_nil
      · rcases Stage.mem_candidates_firstConclusive h with h | ⟨-, h⟩
        · exact Stage.exact_shown known h
        rcases Stage.mem_candidates_firstConclusive h with h | ⟨-, h⟩
        · exact Stage.nearest_shown h
        · exact absurd h Stage.not_mem_candidates_firstConclusive_nil

theorem mem_candidates_answer (h : view ∈ (r.answer request).candidates) :
    ∃ time ∈ request.times, view ∈ (r.answerAt request time).candidates := by
  rw [answer_eq] at h
  split at h
  · exact ⟨request.time, Request.mem_times.mpr (.inl rfl), h⟩
  · split at h
    · rename_i hfallback
      exact ⟨.now, Request.mem_times.mpr (.inr ⟨hfallback.1, hfallback.2, rfl⟩), h⟩
    · simp [Resolution.empty, Resolution.candidates] at h

/-! ## Candidates -/

theorem exists_shownFrom_of_candidate (reachable : r.Reachable)
    (h : view ∈ (r.resolve request).1.candidates) :
    ∃ time ∈ request.times,
      view.ShownFrom r.types request.context request.query.wanted (r.bucket time) := by
  rw [reachable.resolve_eq] at h
  obtain ⟨time, htime, hview⟩ := mem_candidates_answer h
  exact ⟨time, htime, answerAt_shown (fun p hp => (reachable.typesKnown time p hp).2) hview⟩

/-- What every candidate for a request is. -/
structure Suits (r : Registry σ α) (request : Request) (view : View σ α) : Prop where
  registered : view.provider ∈ r.bucket request.time ∨
    request.time ≠ .now ∧ request.flags.contains .fallback = true ∧
      view.provider ∈ r.bucket .now
  accepted : view.provider.validate r.types.tree request.context = .valid
  context : r.types.tree.subsumes view.contextType request.context = true
  value : request.query.Accepts r.types.tree view.provider view.valueType
  direct_iff : view = .direct view.provider ↔
    r.types.tree.subsumes view.provider.contextType request.context = true ∧
      request.query.Accepts r.types.tree view.provider view.provider.valueType
  bridged : view ≠ .direct view.provider →
    ∃ forward reverse, view = .bridged r.types request.context
      (request.query.wanted view.provider) (.direct view.provider) forward reverse

theorem fits_iff {p : Provider σ α} (known : r.types.tree.Known p.valueType) :
    p.Fits r.types.tree request.context (request.query.wanted p) ↔
      r.types.tree.subsumes p.contextType request.context = true ∧
        request.query.Accepts r.types.tree p p.valueType := by
  unfold Provider.Fits Query.wanted Query.Accepts
  cases request.query with
  | identifier text => simp [TypeTree.subsumes_self known]
  | type valueType =>
      have self : p.valueType = valueType → r.types.tree.subsumes valueType p.valueType = true := by
        rintro rfl
        exact TypeTree.subsumes_self known
      exact and_congr_right' (or_iff_right_of_imp self).symm

theorem accepts_of_shows {p : Provider σ α}
    (h : View.Shows r.types request.context (request.query.wanted p) p view) :
    request.query.Accepts r.types.tree p view.valueType := by
  have hsuits := h.suits_value
  unfold Query.Accepts
  unfold Query.wanted at h hsuits
  cases hquery : request.query with
  | identifier text =>
      rw [hquery] at h
      cases h <;> rfl
  | type valueType => simpa [hquery] using hsuits

/-- Every candidate is registered for a time of its request and accepts the context. It suits the
request's context and query, as the provider itself exactly where that does, and else across one
bridge. -/
theorem candidate_suits (reachable : r.Reachable)
    (h : view ∈ (r.resolve request).1.candidates) : r.Suits request view := by
  obtain ⟨time, htime, p, hp, hvalid, hrelated, hshows⟩ :=
    exists_shownFrom_of_candidate reachable h
  have known := (reachable.typesKnown time p hp).2
  obtain rfl := hshows.provider_eq
  refine ⟨?_, hvalid, ?_, accepts_of_shows hshows, ?_, hshows.eq_bridged⟩
  · rcases Request.mem_times.mp htime with rfl | ⟨hpast, hflags, rfl⟩
    · exact .inl hp
    · exact .inr ⟨hpast, hflags, hp⟩
  · exact hshows.subsumes_context (TypeTree.known_of_related hrelated).2
  · exact hshows.eq_direct_iff.trans (fits_iff known)

/-- A provider of arrays in arrays is found for the past of everything, across a bridge. -/
theorem array_candidate_suits :
    let r := ofArrays [{ (default : Provider Unit Unit) with
      contextType := arrays, valueType := arrays }]
    let request : Request := ⟨.root, .type .root, .past, .default⟩
    ∃ view ∈ (r.resolve request).1.candidates,
      view.isBridged = true ∧ r.Suits request view := by
  intro r request
  have hbridged : (r.resolve request).1.candidates.any (·.isBridged) = true := by
    decide +kernel
  obtain ⟨view, hview, hview'⟩ := List.any_eq_true.mp hbridged
  exact ⟨view, hview, hview', candidate_suits (ofArrays_reachable _) hview⟩

end Registry

end Provision
