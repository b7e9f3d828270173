import Provision.Proofs.Stage.Outcome

/-! # Refused, or the closest

Going through providers one by one comes to the same as to look at all of them at once: at those
that object first, and then at those that are closest. -/

namespace Provision

variable {σ α : Type}

/-! ## Objections -/

theorem Provider.message?_validate (p : Provider σ α) (t : TypeTree) (context : TypeId) :
    (p.validate t context).message? =
      if p.excluded.any fun e => t.subsumes e context then p.exclusionMessage else none := by
  cases hcovered : p.excluded.any fun e => t.subsumes e context with
  | true =>
      obtain ⟨e, he⟩ := validate_of_covered hcovered
      rw [he]
      rfl
  | false =>
      rw [validate_of_uncovered hcovered]
      cases p.acceptsContext t context <;> rfl

namespace Stage

/-- The first of some providers, in order, that a stage admits and that does not accept the
context. -/
structure FirstObjector (stage : Stage σ α) (types : TypeSystem σ α) (context : TypeId)
    (providers : List (Provider σ α)) (p : Provider σ α) : Prop where
  admitted : stage.admits p = true
  invalid : p.validate types.tree context ≠ .valid
  first : ∃ before after, providers = before ++ p :: after ∧
    ∀ q ∈ before, stage.admits q = true → q.validate types.tree context = .valid

theorem firstObjector_of_objector {stage : Stage σ α} {types : TypeSystem σ α}
    {context : TypeId} {providers : List (Provider σ α)} {p : Provider σ α}
    (h : stage.objector? types.tree context providers = some p) :
    stage.FirstObjector types context providers p := by
  obtain ⟨hp, before, after, hsplit, hbefore⟩ := List.find?_eq_some_iff_append.mp h
  simp only [Bool.and_eq_true, Bool.not_eq_true', Validation.isValid,
    decide_eq_false_iff_not] at hp
  refine ⟨hp.1, hp.2, before, after, hsplit, ?_⟩
  intro q hq hadmits
  simpa [hadmits, Validation.isValid] using hbefore q hq

variable (stage : Stage σ α) (types : TypeSystem σ α) (context : TypeId)
  (providers : List (Provider σ α))

theorem exists_firstObjector_of_objects (h : stage.Objects types context providers) :
    ∃ p, stage.FirstObjector types context providers p ∧
      stage.run types context providers = .refused (p.validate types.tree context).message? := by
  cases hobjector : stage.objector? types.tree context providers with
  | none => exact absurd h ((objector?_eq_none_iff _ _ _ _).mp hobjector)
  | some p =>
      exact ⟨p, firstObjector_of_objector hobjector, run_of_objector _ _ _ _ hobjector⟩

/-! ## The meaning of a stage -/

/-- If a provider that a stage admits does not accept the context, the stage refuses with the
message of the first such provider. Else it yields, in order, the views of the closest of all
providers that it admits and can show, without those that disambiguation drops. These are none
exactly if it can show none. -/
theorem refused_or_closest :
    let shown := providers.filter fun p => stage.admits p && (stage.view? p).isSome
    let views := (closest stage.rank shown).filterMap stage.view?
    let code (id : TypeId) : Option String := (types.lexicon.naming? id).map (·.code)
    (stage.Objects types context providers →
      ∃ p, stage.FirstObjector types context providers p ∧
        stage.run types context providers = .refused
          (if p.excluded.any fun e => types.tree.subsumes e context then p.exclusionMessage
          else none)) ∧
    (¬ stage.Objects types context providers →
      (stage.namedFor = none → stage.run types context providers = .found views) ∧
      ∀ valueType, stage.namedFor = some valueType →
        stage.run types context providers =
          .found (disambiguate (fun view => code view.provider.valueType) (code valueType)
            views)) ∧
    (views = [] ↔ ¬ stage.Finds providers) := by
  intro shown views code
  refine ⟨?_, ?_, ?_⟩
  · intro objects
    obtain ⟨p, hp, hrefused⟩ := exists_firstObjector_of_objects stage types context providers objects
    exact ⟨p, hp, hrefused.trans (by rw [p.message?_validate])⟩
  · intro accepted
    rw [run_of_not_objects _ _ _ _ accepted]
    refine ⟨?_, ?_⟩
    · intro unnamed
      rw [keep, unnamed]
      rfl
    · intro valueType named
      rw [keep, named]
      rfl
  · rw [← closestViews_shown_ne_nil_iff, Classical.not_not]
    rfl

/-- The two closest of those that can be shown are kept, and of these the one of the requested name
where names decide. One that objects refuses them, though it is farther than they are. -/
theorem near_and_tied_closest :
    let near : Provider Unit Unit := {
      label := "near"
      contextType := .root
      valueType := .root
      patterns := [.literal "near"]
      acceptsInput := fun _ => true
      acceptsContext := fun _ _ => true
      getter := fun _ _ => none
      changers := {}
      time := .now
      excluded := []
      exclusionMessage := none }
    let tied := { near with label := "tied", valueType := .ofNat 1 }
    let hidden := { near with label := "hidden", patterns := [] }
    let far := { near with label := "far", patterns := [.literal "a", .literal "b"] }
    let objector := { far with excluded := [.root], exclusionMessage := some "not here" }
    let types : TypeSystem Unit Unit := { lexicon := ⟨[(.ofNat 1, .new "text" "text")]⟩ }
    let stage : Stage Unit Unit := {
      rank := fun p => { value := p.patterns.length }
      view? := fun p => if p.label = "hidden" then none else some (.direct p) }
    let named := { stage with namedFor := some .root }
    let labels (result : Resolution Unit Unit) := result.candidates.map (·.provider.label)
    labels (stage.run types .root [far, hidden, near, tied]) = ["near", "tied"] ∧
      labels (named.run types .root [far, hidden, near, tied]) = ["near"] ∧
      stage.run types .root [near, objector] = .refused (some "not here") := by
  intro near tied hidden far objector types stage named labels
  have accepted (stage : Stage Unit Unit)
      (h : (stage.objector? types.tree .root [far, hidden, near, tied]).isNone = true) :
      ¬ stage.Objects types .root [far, hidden, near, tied] :=
    (objector?_eq_none_iff _ _ _ _).mp (Option.isNone_iff_eq_none.mp h)
  have objects : stage.Objects types .root [near, objector] :=
    ⟨objector, by simp, rfl, by decide +kernel⟩
  have hmessage : (stage.run types .root [near, objector]).message? = some "not here" := by
    decide +kernel
  obtain ⟨-, hunnamed, -⟩ := refused_or_closest stage types .root [far, hidden, near, tied]
  obtain ⟨-, hnamed, -⟩ := refused_or_closest named types .root [far, hidden, near, tied]
  obtain ⟨p, -, hrefused⟩ := (refused_or_closest stage types .root [near, objector]).1 objects
  refine ⟨?_, ?_, ?_⟩
  · rw [(hunnamed (accepted stage (by decide +kernel))).1 rfl]
    decide +kernel
  · rw [(hnamed (accepted named (by decide +kernel))).2 .root rfl]
    decide +kernel
  · rw [hrefused] at hmessage ⊢
    exact congrArg Resolution.refused hmessage

end Stage

end Provision
