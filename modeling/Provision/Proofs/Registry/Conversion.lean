import Mathlib.Data.List.Basic
import Provision.Proofs.Registry.Candidates

/-! # Conversion comes last

The stages before conversion can show all that they admit, and between them they admit every
provider of a related type of values. So where a search comes to conversion, values are as far from
the requested type as can be, and contexts alone decide. -/

namespace Provision

variable {σ α : Type}

namespace Stage

variable {types : TypeSystem σ α} {context valueType : TypeId} {providers : List (Provider σ α)}
  {stage : Stage σ α} {p : Provider σ α}

/-! ## Stages for related types of values -/

/-- The stages that come before conversion, for providers of related types of values. -/
def kindred (types : TypeSystem σ α) (context valueType : TypeId) : List (Stage σ α) :=
  [.exact types context valueType, .nearest types context valueType,
    .narrowing types context valueType]

theorem isSome_view?_of_kindred (hstage : stage ∈ kindred types context valueType)
    (hadmits : stage.admits p = true) : (stage.view? p).isSome = true := by
  simp only [kindred, List.mem_cons, List.not_mem_nil, or_false] at hstage
  rcases hstage with rfl | rfl | rfl
  · rfl
  · exact View.isSome_convert?_of_subsumes (Bool.and_eq_true_iff.mp hadmits).2
  · rfl

theorem isConclusive_kindred_iff (hstage : stage ∈ kindred types context valueType) :
    (stage.run types context providers).isConclusive = true ↔
      ∃ p ∈ providers, stage.admits p = true :=
  isConclusive_run_iff_admits _ _ _ _ fun _ => isSome_view?_of_kindred hstage

/-- What the stages before conversion leave over has no related type of values. -/
theorem unrelated_of_kindred
    (h : ∀ stage ∈ kindred types context valueType,
      (stage.run types context providers).isConclusive = false)
    (hp : p ∈ providers) (hcontext : types.tree.related p.contextType context = true) :
    types.tree.related p.valueType valueType = false := by
  have refused (stage : Stage σ α) (hstage : stage ∈ kindred types context valueType) :
      stage.admits p = false := by
    rw [Bool.eq_false_iff]
    intro hadmits
    have conclusive := (isConclusive_kindred_iff hstage).mpr ⟨p, hp, hadmits⟩
    simp [h stage hstage] at conclusive
  have hnearest : types.tree.subsumes valueType p.valueType = false := by
    simpa [nearest, hcontext] using refused (.nearest types context valueType) (by simp [kindred])
  have hnarrowing : types.tree.subsumes p.valueType valueType = false := by
    simpa [narrowing, hcontext] using
      refused (.narrowing types context valueType) (by simp [kindred])
  exact (TypeTree.related_eq_false_iff _ _ _).mpr ⟨hnarrowing, hnearest⟩

/-! ## Conversion -/

theorem value_rank_converting (h : types.tree.related p.valueType valueType = false) :
    ((converting types context valueType).rank p).value = Rank.noDistance := by
  have hnone : types.tree.distanceBetween? p.valueType valueType = none :=
    Option.not_isSome_iff_eq_none.mp (Bool.eq_false_iff.mp h)
  simp [converting, Rank.withValue, hnone]

theorem view?_converting (h : types.tree.related p.valueType valueType = false) :
    (converting types context valueType).view? p =
      (types.converter? p.valueType valueType).map fun forward =>
        .bridged types context valueType (.direct p) forward
          (types.converter? valueType p.valueType) := by
  obtain ⟨back, forward⟩ := (TypeTree.related_eq_false_iff _ _ _).mp h
  simp [converting, View.convert?, View.adapt?, View.valueType, forward,
    TypeSystem.between?_of_not_subsumes forward, TypeSystem.between?_of_not_subsumes back]

/-- Where no type of values is related, conversion yields the bridges that are found for those of
the closest contexts. -/
theorem run_converting
    (unrelated : ∀ p ∈ providers, types.tree.related p.contextType context = true →
      types.tree.related p.valueType valueType = false)
    (accepted : ¬ (converting types context valueType).Objects types context providers) :
    (converting types context valueType).run types context providers =
      .found ((closest (fun p => .ofContext types.tree context p.contextType)
        (providers.filter fun p => types.tree.related p.contextType context &&
          (types.converter? p.valueType valueType).isSome)).filterMap fun p =>
            (types.converter? p.valueType valueType).map fun forward =>
              .bridged types context valueType (.direct p) forward
                (types.converter? valueType p.valueType)) := by
  have hshown : (converting types context valueType).shown providers =
      providers.filter fun p => types.tree.related p.contextType context &&
        (types.converter? p.valueType valueType).isSome := by
    apply List.filter_congr
    intro p hp
    cases hcontext : types.tree.related p.contextType context with
    | false => simp [converting, hcontext]
    | true =>
        rw [view?_converting (unrelated p hp hcontext), Option.isSome_map]
        exact congrArg (· && _) hcontext
  have apart : ∀ p ∈ (converting types context valueType).shown providers,
      types.tree.related p.valueType valueType = false := by
    intro p hp
    obtain ⟨hp, hadmits, -⟩ := mem_shown.mp hp
    exact unrelated p hp hadmits
  have hclosest : closest (converting types context valueType).rank
      ((converting types context valueType).shown providers) =
        closest (fun p => .ofContext types.tree context p.contextType)
          ((converting types context valueType).shown providers) := by
    apply closest_congr
    intro p hp q hq
    have hvalue : ((converting types context valueType).rank p).value =
        ((converting types context valueType).rank q).value := by
      rw [value_rank_converting (apart p hp), value_rank_converting (apart q hq)]
    exact (Rank.before_of_value_eq hvalue).trans (Rank.before_ofContext _ _ _ _).symm
  rw [run_of_not_objects _ _ _ _ accepted, closestViews, hclosest, ← hshown]
  refine congrArg Resolution.found (List.filterMap_congr ?_)
  intro p hp
  exact view?_converting (apart p (mem_closest.mp hp).1)

/-! ## Coming to conversion -/

theorem converting_not_mem_kindred :
    converting types context valueType ∉ kindred types context valueType := by
  have unnamed : ∀ stage ∈ kindred types context valueType, stage.namedFor = some valueType := by
    simp [kindred, exact, nearest, narrowing]
  intro h
  simpa [converting] using unnamed _ h

/-- A walk through all stages at one time after the other that comes to the last of them has passed
the others of that time. -/
theorem mem_passed_of_last {times : List Time} {front : List (Stage σ α)} {last : Stage σ α}
    (fresh : last ∉ front) {passed : List (Time × Stage σ α)} {time : Time}
    (h : passed ++ [(time, last)] <+:
      times.flatMap fun t => (front ++ [last]).map fun stage => (t, stage))
    (hstage : stage ∈ front) : (time, stage) ∈ passed := by
  induction times generalizing passed with
  | nil => simp at h
  | cons t rest ih =>
      obtain ⟨later, hplan⟩ := h
      simp only [List.flatMap_cons, List.map_append, List.map_cons, List.map_nil,
        List.append_assoc, List.singleton_append] at hplan
      -- The walk ends with the first time or within it, or goes on to the rest of the times.
      rcases List.append_eq_append_iff.mp hplan with ⟨more, hfront, hmore⟩ | ⟨more, rfl, hmore⟩
      · cases more with
        | nil =>
            obtain ⟨⟨rfl, -⟩, -⟩ := by simpa using hmore
            rw [List.append_nil] at hfront
            rw [← hfront]
            exact List.mem_map_of_mem hstage
        | cons next more =>
            obtain ⟨rfl, -⟩ := List.cons.inj hmore
            have hlast : (time, last) ∈ front.map fun stage => (t, stage) := by simp [hfront]
            simp [fresh] at hlast
      · cases more with
        | nil =>
            obtain ⟨⟨rfl, -⟩, -⟩ := by simpa using hmore
            simpa using hstage
        | cons next more =>
            obtain ⟨-, hrest⟩ := List.cons.inj hmore
            have hin := ih ⟨later, by simpa using hrest.symm⟩
            simp [hin]

end Stage

namespace Registry

variable {r : Registry σ α} {request : Request} {valueType : TypeId} {time : Time}
  {passed : List (Time × Stage σ α)}

theorem Reaches.kindred_inconclusive (hquery : request.query = .type valueType)
    (h : r.Reaches request passed (time, .converting r.types request.context valueType)) :
    ∀ stage ∈ Stage.kindred r.types request.context valueType,
      (r.outcome request.context (time, stage)).isConclusive = false := by
  have hstages : request.stages r.types =
      Stage.kindred r.types request.context valueType ++
        [.converting r.types request.context valueType] := by
    have hplan := h.planned.subset (List.mem_append_right passed (List.mem_singleton_self _))
    obtain ⟨t, -, ht⟩ := List.mem_flatMap.mp hplan
    obtain ⟨stage, hstage, heq⟩ := List.mem_map.mp ht
    obtain ⟨-, rfl⟩ := Prod.mk.inj heq
    unfold Request.stages at hstage ⊢
    rw [hquery] at hstage ⊢
    dsimp only at hstage ⊢
    split
    · rfl
    · rename_i direct
      rw [if_neg direct] at hstage
      have hkindred : Stage.converting r.types request.context valueType ∈
          Stage.kindred r.types request.context valueType := List.mem_append_left [_] hstage
      exact absurd hkindred Stage.converting_not_mem_kindred
  intro stage hstage
  have hplanned := h.planned
  rw [Request.plan, hstages] at hplanned
  exact h.undecided _ (Stage.mem_passed_of_last Stage.converting_not_mem_kindred hplanned hstage)

/-- The stages before conversion are conclusive exactly if they admit a provider. So where a search
comes to conversion, no provider for related contexts has a related type of values: the value part of
ranks tells no two of them apart. Conversion is refused if one of them objects, and else yields, in
order, the bridges of those with a conversion whose contexts are the closest. What is conclusive
there is the answer. -/
theorem conversion_comes_last (reachable : r.Reachable) (context valueType : TypeId) :
    (∀ time, ∀ stage ∈ [Stage.exact r.types context valueType,
        .nearest r.types context valueType, .narrowing r.types context valueType],
      ((r.outcome context (time, stage)).isConclusive = true ↔
        ∃ p ∈ r.bucket time, stage.admits p = true)) ∧
    ∀ asked flags passed time,
      let request : Request := ⟨context, .type valueType, asked, flags⟩
      let stage := Stage.converting r.types context valueType
      let found := r.outcome context (time, stage)
      r.Reaches request passed (time, stage) →
        (∀ p ∈ r.bucket time, r.types.tree.related p.contextType context = true →
          r.types.tree.related p.valueType valueType = false) ∧
        (∀ p ∈ r.bucket time, r.types.tree.related p.contextType context = true →
          ∀ q ∈ r.bucket time, r.types.tree.related q.contextType context = true →
            (stage.rank p).value = (stage.rank q).value) ∧
        ((∃ p ∈ r.bucket time, r.types.tree.related p.contextType context = true ∧
            p.validate r.types.tree context ≠ .valid) →
          found.isRefused = true) ∧
        ((∀ p ∈ r.bucket time, r.types.tree.related p.contextType context = true →
            p.validate r.types.tree context = .valid) →
          found = .found ((closest (fun p => .ofContext r.types.tree context p.contextType)
            ((r.bucket time).filter fun p => r.types.tree.related p.contextType context &&
              (r.types.converter? p.valueType valueType).isSome)).filterMap fun p =>
                (r.types.converter? p.valueType valueType).map fun forward =>
                  .bridged r.types context valueType (.direct p) forward
                    (r.types.converter? valueType p.valueType))) ∧
        (found.isConclusive = true → (r.resolve request).1 = found) := by
  refine ⟨fun time stage => Stage.isConclusive_kindred_iff, ?_⟩
  intro asked flags passed time request stage found reaches
  have unrelated : ∀ p ∈ r.bucket time, r.types.tree.related p.contextType context = true →
      r.types.tree.related p.valueType valueType = false := fun p =>
    Stage.unrelated_of_kindred (reaches.kindred_inconclusive rfl)
  refine ⟨unrelated, ?_, ?_, ?_, ?_⟩
  · intro p hp hcontext q hq hcontext'
    rw [Stage.value_rank_converting (unrelated p hp hcontext),
      Stage.value_rank_converting (unrelated q hq hcontext')]
  · intro objects
    exact (Stage.isRefused_run_iff _ _ _ _).mpr objects
  · intro accepted
    refine Stage.run_converting unrelated ?_
    rintro ⟨p, hp, hadmits, invalid⟩
    exact invalid (accepted p hp hadmits)
  · intro conclusive
    rw [reachable.resolve_eq]
    exact reaches.answer_eq conclusive

/-- The numbers of the past are those that two texts of arrays are converted to at the present. One
for all contexts is farther. One without a conversion refuses them all if it objects. -/
theorem numbers_from_texts_of_arrays :
    let first := { message with label := "first" }
    let second := { message with label := "second", patterns := [.literal "line"] }
    let far := { message with label := "far", contextType := .root }
    let objector := { message with valueType := arrays, excluded := [arrays] }
    let r := ofProviders oneWay [far, first, second]
    let u := ofProviders oneWay [far, first, objector]
    let request : Request := ⟨arrays, .type numbers, .past, .default⟩
    let converting (r : Registry Unit Unit) := Stage.converting r.types arrays numbers
    r.Reaches request ((request.plan r.types).take 7) (.now, converting r) ∧
      (r.resolve request).1.candidates.map (·.provider.label) = ["first", "second"] ∧
      (∀ p ∈ r.bucket .now, ∀ q ∈ r.bucket .now,
        ((converting r).rank p).value = ((converting r).rank q).value) ∧
      u.Reaches request ((request.plan u.types).take 7) (.now, converting u) ∧
      (u.resolve request).1.isRefused = true := by
  intro first second far objector r u request converting
  have reachable : r.Reachable := ofProviders_reachable _ _
  have reachable' : u.Reachable := ofProviders_reachable _ _
  have hplan (types : TypeSystem Unit Unit) : (request.plan types).take 7 ++
      [(.now, .converting types arrays numbers)] = request.plan types := by
    dsimp only [request]
    rfl
  have reaches : r.Reaches request ((request.plan r.types).take 7) (.now, converting r) :=
    ⟨(hplan _).symm ▸ List.prefix_refl _, by decide +kernel⟩
  have reaches' : u.Reaches request ((request.plan u.types).take 7) (.now, converting u) :=
    ⟨(hplan _).symm ▸ List.prefix_refl _, by decide +kernel⟩
  obtain ⟨-, hvalue, -, hfound, hanswer⟩ :=
    (conversion_comes_last reachable arrays numbers).2 .past .default _ .now reaches
  obtain ⟨-, -, hrefused, -, hanswer'⟩ :=
    (conversion_comes_last reachable' arrays numbers).2 .past .default _ .now reaches'
  refine ⟨reaches, ?_, ?_, reaches', ?_⟩
  · rw [hanswer (by decide +kernel), hfound (by decide +kernel)]
    decide +kernel
  · have near : ∀ p ∈ r.bucket .now, r.types.tree.related p.contextType arrays = true := by
      decide +kernel
    exact fun p hp q hq => hvalue p hp (near p hp) q hq (near q hq)
  · rw [hanswer' (by decide +kernel)]
    exact hrefused (by decide +kernel)

end Registry

end Provision
