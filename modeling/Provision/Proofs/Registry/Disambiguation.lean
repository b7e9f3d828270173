import Provision.Proofs.Registry.ExactPriority

/-! # Which of several tied candidates are dropped

Disambiguation drops those that go by another name than the requested one, if that leaves any. In
the exact stage all candidates go by the requested name, so none is dropped. -/

namespace Provision

variable {σ α : Type}

/-- All candidates of the exact stage are of the requested type, so each goes by its name if that
has one. -/
theorem Stage.valueType_of_mem_exact_views {types : TypeSystem σ α} {context valueType : TypeId}
    {providers : List (Provider σ α)} {view : View σ α}
    (h : view ∈ (exact types context valueType).closestViews
      ((exact types context valueType).shown providers)) :
    view.provider.valueType = valueType := by
  obtain ⟨p, hp, hview⟩ := List.mem_filterMap.mp h
  obtain ⟨-, hadmits, -⟩ := mem_shown.mp (mem_closest.mp hp).1
  obtain rfl : View.direct p = view := Option.some.inj hview
  exact (admits_exact_iff.mp hadmits).2

/-- A stage in which names do not count. -/
def Stage.unnamed (stage : Stage σ α) : Stage σ α := { stage with namedFor := none }

theorem Stage.exact_run_eq_unnamed (types : TypeSystem σ α) (context valueType : TypeId)
    (providers : List (Provider σ α)) :
    (exact types context valueType).run types context providers =
      (exact types context valueType).unnamed.run types context providers := by
  let stage := exact types context valueType
  have hkeep : stage.keep types.lexicon (stage.closestViews (stage.shown providers)) =
      stage.closestViews (stage.shown providers) :=
    keep_exact_eq_self fun _ => valueType_of_mem_exact_views
  rw [run_eq, run_eq, hkeep]
  rfl

namespace Registry

/-- Disambiguation leaves items in their order, and some unless there were none. A second time it
changes nothing, and one and the same test decides for the items in any order. It drops none unless
some items carry the requested identity or none and others another one, and then exactly the
latter. The exact stage yields the same without it. -/
theorem dropped_iff_divided :
    (∀ {ι κ : Type} [BEq κ] (identity : ι → Option κ) (requested : Option κ) (items : List ι),
      (disambiguate identity requested items).Sublist items ∧
      (disambiguate identity requested items = [] ↔ items = []) ∧
      disambiguate identity requested (disambiguate identity requested items) =
        disambiguate identity requested items ∧
      (∃ test : ι → Bool, ∀ others, others.Perm items →
        disambiguate identity requested others = others.filter test) ∧
      (disambiguate identity requested items = items ↔ ¬Divided identity requested items) ∧
      (Divided identity requested items → disambiguate identity requested items =
        items.filter (fitsIdentity identity requested))) ∧
    ∀ (r : Registry σ α) (context valueType : TypeId) (time : Time),
      r.resolveExact context valueType time =
        (Stage.exact r.types context valueType).unnamed.run r.types context (r.bucket time) := by
  constructor
  · intro ι κ _ identity requested items
    refine ⟨disambiguate_sublist identity requested items, disambiguate_eq_nil_iff,
      disambiguate_idem identity requested items, ⟨_, fun others => disambiguate_of_perm⟩,
      disambiguate_eq_self_iff, ?_⟩
    rintro ⟨-, fitting, -⟩
    exact disambiguate_of_fitting fitting
  · intro r context valueType time
    exact Stage.exact_run_eq_unnamed r.types context valueType (r.bucket time)

/-- Of a ram, a cow and a ewe, the cow is the one that is no sheep, whichever comes first. Both of
two providers of arrays are found where these have a name. -/
theorem ram_and_ewe_kept :
    let items := [("ram", none), ("cow", some "cow"), ("ewe", some "sheep")]
    let p := { (default : Provider Unit Unit) with valueType := arrays }
    let q := { p with patterns := [.literal "q"] }
    let r := ofProviders { oneWay with lexicon := ⟨[(arrays, .new "array" "array")]⟩ } [p, q]
    Divided Prod.snd (some "sheep") items ∧
      disambiguate Prod.snd (some "sheep") items = [("ram", none), ("ewe", some "sheep")] ∧
      disambiguate Prod.snd (some "sheep") items.reverse =
        [("ewe", some "sheep"), ("ram", none)] ∧
      (r.resolveExact arrays arrays .now).candidates.length = 2 := by
  intro items p q r
  obtain ⟨hlaws, hexact⟩ := @dropped_iff_divided Unit Unit
  obtain ⟨-, -, -, ⟨test, htest⟩, -, hdropped⟩ := hlaws Prod.snd (some "sheep") items
  have divided : Divided Prod.snd (some "sheep") items :=
    ⟨by decide, ⟨("ram", none), by simp [items], rfl⟩, ("cow", some "cow"), by simp [items], rfl⟩
  have hkept : disambiguate Prod.snd (some "sheep") items =
      [("ram", none), ("ewe", some "sheep")] := hdropped divided
  refine ⟨divided, hkept, ?_, ?_⟩
  · rw [htest _ (List.reverse_perm items), List.filter_reverse, ← htest items (.refl items), hkept]
    rfl
  · rw [hexact]
    decide +kernel

end Registry

end Provision
