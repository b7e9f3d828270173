import Provision.Proofs.Registry.Candidates
import Provision.Proofs.TypeTree.Chain
import Provision.Proofs.TypeTree.Run

/-! # Exclusions that a candidate shows

A view shows those exclusions of its provider that lie below its own context. The others do not
matter there: what lies beside covers nothing below it, and what lies above would cover the context
itself, which the provider has accepted. -/

namespace Provision

variable {σ α : Type}

/-! ## Excluded contexts -/

/-- A provider turns a context down by one of its exclusions. -/
def Provider.Excludes (p : Provider σ α) (t : TypeTree) (context : TypeId) : Prop :=
  ∃ e message, p.validate t context = .excluded e message

/-- A context is of a type, or of one below it, that a view shows as excluded. -/
def View.ShowsExcluded (view : View σ α) (t : TypeTree) (context : TypeId) : Prop :=
  ∃ e ∈ view.excluded, t.subsumes e context = true

theorem Provider.excludes_iff (p : Provider σ α) (t : TypeTree) (context : TypeId) :
    p.Excludes t context ↔ ∃ e ∈ p.excluded, t.subsumes e context = true := by
  rw [← List.any_eq_true (p := (t.subsumes · context))]
  cases hcovered : p.excluded.any fun e => t.subsumes e context with
  | true =>
      obtain ⟨e, he⟩ := validate_of_covered hcovered
      exact iff_of_true ⟨e, _, he⟩ rfl
  | false =>
      refine iff_of_false ?_ Bool.false_ne_true
      rintro ⟨e, message, hexcluded⟩
      rw [validate_of_uncovered hcovered] at hexcluded
      cases haccepts : p.acceptsContext t context <;> simp [haccepts] at hexcluded

/-! ## Views -/

section

variable {types : TypeSystem σ α} {context wanted below : TypeId} {p : Provider σ α}
  {view : View σ α}

/-- Below a context that is accepted, only what lies below it excludes. -/
theorem Provider.subsumes_of_excluded_below (accepted : p.validate types.tree context = .valid)
    (hbelow : types.tree.subsumes context below = true) {e : TypeId} (he : e ∈ p.excluded)
    (hcovers : types.tree.subsumes e below = true) : types.tree.subsumes context e = true := by
  rcases TypeTree.related_of_above hcovers hbelow with habove | hwithin
  · obtain ⟨excluder, message, hexcluded⟩ :=
      (p.excludes_iff types.tree context).mpr ⟨e, he, habove⟩
    exact nomatch accepted.symm.trans hexcluded
  · exact hwithin

theorem View.Shows.excludes_iff (h : View.Shows types context wanted p view)
    (accepted : p.validate types.tree context = .valid)
    (hbelow : types.tree.subsumes context below = true) :
    p.Excludes types.tree below ↔ view.ShowsExcluded types.tree below := by
  rw [Provider.excludes_iff]
  cases h with
  | direct fits => rfl
  | bridged unfit forward reverse =>
      constructor
      · rintro ⟨e, he, hcovers⟩
        have hwithin := Provider.subsumes_of_excluded_below accepted hbelow he hcovers
        exact ⟨e, List.mem_filter.mpr ⟨he, hwithin⟩, hcovers⟩
      · rintro ⟨e, he, hcovers⟩
        exact ⟨e, (List.mem_filter.mp he).1, hcovers⟩

theorem View.ShownFrom.excludes_iff {wantedOf : Provider σ α → TypeId}
    {providers : List (Provider σ α)} (h : view.ShownFrom types context wantedOf providers)
    (hbelow : types.tree.subsumes context below = true) :
    view.provider.Excludes types.tree below ↔ view.ShowsExcluded types.tree below := by
  obtain ⟨p, -, accepted, -, hshows⟩ := h
  rw [hshows.provider_eq]
  exact hshows.excludes_iff accepted hbelow

end

namespace Registry

/-- The exclusions that a candidate shows are all that matter: a provider turns down a context below
the one that was searched by an exclusion exactly if its candidate shows one that covers it. -/
theorem candidates_show_exclusions {r : Registry σ α} (reachable : r.Reachable) :
    (∀ (request : Request), ∀ view ∈ (r.resolve request).1.candidates, ∀ below,
      r.types.tree.subsumes request.context below = true →
        (view.provider.Excludes r.types.tree below ↔ view.ShowsExcluded r.types.tree below)) ∧
    ∀ context valueType time, ∀ view ∈ (r.resolveExact context valueType time).candidates,
      ∀ below, r.types.tree.subsumes context below = true →
        (view.provider.Excludes r.types.tree below ↔ view.ShowsExcluded r.types.tree below) := by
  constructor
  · intro request view hview below hbelow
    obtain ⟨time, -, hshown⟩ := exists_shownFrom_of_candidate reachable hview
    exact hshown.excludes_iff hbelow
  · intro context valueType time view hview below hbelow
    have known : ∀ p ∈ r.bucket time, r.types.tree.Known p.valueType :=
      fun p hp => (reachable.typesKnown time p hp).2
    exact (Stage.exact_shown known hview).excludes_iff hbelow

/-- Arrays are excluded too, but that is not shown for players, none of which are arrays. -/
theorem admins_excluded_for_players :
    let objects : TypeId := .ofNat 3
    let r := ofProviders { tree := TypeTree.players } [{ (default : Provider Unit Unit) with
      valueType := objects, excluded := [objects, TypeTree.admin] }]
    let request : Request := ⟨TypeTree.player, .type (.ofNat 4), .past, .default⟩
    ∃ view ∈ (r.resolve request).1.candidates, objects ∈ view.provider.excluded ∧
      view.excluded = [TypeTree.admin] ∧
      r.types.tree.subsumes request.context TypeTree.admin = true ∧
      view.provider.Excludes r.types.tree TypeTree.admin ∧
      ¬ view.provider.Excludes r.types.tree TypeTree.player := by
  intro objects r request
  have hfound : (r.resolve request).1.candidates.any (fun view =>
      view.provider.excluded.contains objects && view.excluded == [TypeTree.admin]) = true := by
    decide +kernel
  obtain ⟨view, hview, hview'⟩ := List.any_eq_true.mp hfound
  obtain ⟨hobjects, hexcluded⟩ : objects ∈ view.provider.excluded ∧
      view.excluded = [TypeTree.admin] := by
    simpa using hview'
  have hadmin : r.types.tree.subsumes request.context TypeTree.admin = true := by decide +kernel
  have hplayer : r.types.tree.subsumes request.context TypeTree.player = true := by decide +kernel
  obtain ⟨hshown, -⟩ := candidates_show_exclusions (r := r) (ofProviders_reachable _ _)
  refine ⟨view, hview, hobjects, hexcluded, hadmin, ?_, ?_⟩
  · rw [hshown request view hview TypeTree.admin hadmin]
    exact ⟨TypeTree.admin, by simp [hexcluded], by decide +kernel⟩
  · rw [hshown request view hview TypeTree.player hplayer]
    rintro ⟨e, he, hcovers⟩
    obtain rfl : e = TypeTree.admin := by simpa [hexcluded] using he
    exact absurd hcovers (by decide +kernel)

end Registry

end Provision
