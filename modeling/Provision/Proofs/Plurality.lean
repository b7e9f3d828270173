import Provision.Proofs.DefaultIdentifiers
import Provision.Proofs.English

/-! # One value or several

The providers of a type and of its arrays, where neither names patterns, share out the inputs: none
goes to both. What users may write for a named type always goes to one of them. -/

namespace Provision.Draft

section

variable {σ α : Type} {types : TypeSystem σ α} {type array : TypeId} {d one many : Draft σ α}
  {p q : Provider σ α}

/-- A type that is not named goes by its own name in lower case, and its array by the plural. -/
theorem Plain.matchesInput_of_unnamed {valueType : TypeId} (plain : d.Plain valueType)
    (h : d.build types = .ok p)
    (element : (types.tree.component? valueType).getD valueType = type)
    (unnamed : types.lexicon.naming? type = none) (input : String) :
    p.matchesInput input = true ↔
      let name := Unicode.lowercased (types.tree.name type)
      input = if types.tree.isArray valueType then English.plural name else name := by
  rw [plain.matchesInput_iff h, defaultPatterns, element, unnamed]
  simp [Pattern.accepts_literal]

/-- A provider of values and one of arrays, neither of which names patterns, never match the same
input. If the type is named, whatever one of its patterns matches is matched by the one or the
other. -/
theorem singular_and_plural_apart (single : types.tree.isArray type = false)
    (component : types.tree.component? array = some type)
    (plainOne : one.Plain type) (plainMany : many.Plain array)
    (builtOne : one.build types = .ok p) (builtMany : many.build types = .ok q) :
    (∀ input, ¬(p.matchesInput input = true ∧ q.matchesInput input = true)) ∧
    ∀ naming, types.lexicon.naming? type = some naming → ∀ input,
      naming.patterns.any (·.accepts input) = true →
        p.matchesInput input = !q.matchesInput input := by
  have alone : types.tree.component? type = none := by simpa [TypeTree.isArray] using single
  have several : types.tree.isArray array = true := by simp [TypeTree.isArray, component]
  have elementOne : (types.tree.component? type).getD type = type := by rw [alone]; rfl
  have elementMany : (types.tree.component? array).getD array = type := by rw [component]; rfl
  constructor
  · rintro input ⟨hone, hmany⟩
    cases hnaming : types.lexicon.naming? type with
    | none =>
        rw [plainOne.matchesInput_of_unnamed builtOne elementOne hnaming, single] at hone
        rw [plainMany.matchesInput_of_unnamed builtMany elementMany hnaming, several] at hmany
        exact English.plural_ne _ (hmany.symm.trans hone)
    | some naming =>
        rw [plainOne.matchesInput_of_naming builtOne elementOne hnaming, single] at hone
        rw [plainMany.matchesInput_of_naming builtMany elementMany hnaming, several] at hmany
        exact Bool.false_ne_true (hone.2.symm.trans hmany.2)
  · intro naming named input matched
    have hpattern : ∃ pattern ∈ naming.patterns, pattern.accepts input = true :=
      List.any_eq_true.mp matched
    rw [Bool.eq_iff_iff, Bool.not_eq_true', ← Bool.not_eq_true,
      plainOne.matchesInput_of_naming builtOne elementOne named,
      plainMany.matchesInput_of_naming builtMany elementMany named, single, several]
    simp [hpattern]

end

/-- Users may call sheep lambs, too. -/
def sheepOrLambs : Naming :=
  ((Naming.new "sheep" "sheep").withPatterns ["sheep|lambs?"]).toOption.getD (.new "sheep" "sheep")

/-- Sheep are named, and persons are not. -/
def flock : TypeSystem Unit Unit :=
  { personsAndSheep with lexicon := ⟨[(.ofNat 2, sheepOrLambs)]⟩ }

theorem exists_build_flock (valueType : TypeId)
    (known : ∀ id ∈ (plainDraft valueType).mentioned, flock.tree.Known id) :
    ∃ p, (plainDraft valueType).build flock = .ok p :=
  (plainDraft_plain valueType).exists_build rfl known

/-- A lamb is one sheep and lambs are several, though neither is a noun for them. -/
theorem lambs_apart :
    ∃ one many, (plainDraft (.ofNat 2)).build flock = .ok one ∧
      (plainDraft (.ofNat 5)).build flock = .ok many ∧
      (∀ input, ¬(one.matchesInput input = true ∧ many.matchesInput input = true)) ∧
      one.matchesInput "lamb" = !many.matchesInput "lamb" ∧
      one.matchesInput "lambs" = !many.matchesInput "lambs" := by
  obtain ⟨one, hone⟩ := exists_build_flock (.ofNat 2) (by decide +kernel)
  obtain ⟨many, hmany⟩ := exists_build_flock (.ofNat 5) (by decide +kernel)
  have single : flock.tree.isArray (.ofNat 2) = false := by decide +kernel
  have component : flock.tree.component? (.ofNat 5) = some (.ofNat 2) := by decide +kernel
  obtain ⟨hapart, hnamed⟩ := singular_and_plural_apart single component (plainDraft_plain _)
    (plainDraft_plain _) hone hmany
  refine ⟨one, many, hone, hmany, hapart, ?_, ?_⟩
  · exact hnamed sheepOrLambs rfl "lamb" (by decide +kernel)
  · exact hnamed sheepOrLambs rfl "lambs" (by decide +kernel)

end Provision.Draft
