import Mathlib.Data.List.Induction
import Provision.Draft

/-! # What users call values whose provider names no patterns

A provider without patterns of its own goes by the nouns of its value type. One value goes by the
singular, and an array by the plural unless that is the singular too. -/

namespace Provision

/-! ## Nouns -/

namespace Naming

/-- The naming by a noun, whose plural is then set any number of times. -/
def ofNoun (code noun : String) (plurals : List String) : Naming :=
  plurals.foldl withPlural (new code noun)

/-- Patterns that are made from the nouns follow a change of the plural. -/
theorem withPlural_of_default {n : Naming} (h : n.patterns = defaultPatterns n.nouns)
    (plural : String) :
    n.withPlural plural =
      ⟨n.code, ⟨n.nouns.singular, plural⟩, defaultPatterns ⟨n.nouns.singular, plural⟩⟩ := by
  have same : (n.patterns == defaultPatterns n.nouns) = true := by
    rw [h]
    simp [defaultPatterns]
  simp [withPlural, same]

/-- Such patterns stay made from the nouns, and the last plural that was set counts. -/
theorem foldl_withPlural_of_default {n : Naming} (h : n.patterns = defaultPatterns n.nouns)
    (plurals : List String) :
    let nouns : Nouns := ⟨n.nouns.singular, plurals.getLast?.getD n.nouns.plural⟩
    plurals.foldl withPlural n = ⟨n.code, nouns, defaultPatterns nouns⟩ := by
  induction plurals using List.reverseRecOn with
  | nil =>
      change n = ⟨n.code, n.nouns, defaultPatterns n.nouns⟩
      rw [← h]
  | append_singleton plurals plural ih =>
      rw [List.foldl_append, ih]
      simp [withPlural_of_default]

theorem ofNoun_eq (code noun : String) (plurals : List String) :
    let nouns : Nouns := ⟨noun, plurals.getLast?.getD (English.plural noun)⟩
    ofNoun code noun plurals = ⟨code, nouns, defaultPatterns nouns⟩ :=
  foldl_withPlural_of_default rfl plurals

end Naming

/-! ## Providers without patterns -/

namespace Draft

variable {σ α : Type}

/-- A draft of values of a type that names no patterns and does not look at inputs itself. -/
structure Plain (d : Draft σ α) (valueType : TypeId) : Prop where
  valueType_eq : d.valueType = valueType
  patterns_eq : d.patterns = none
  acceptsInput_eq : d.acceptsInput = fun _ => true

variable {d : Draft σ α} {types : TypeSystem σ α} {p : Provider σ α} {type valueType : TypeId}

theorem Plain.exists_build (plain : d.Plain valueType) (getter : d.getter.isSome = true)
    (known : ∀ id ∈ d.mentioned, types.tree.Known id) : ∃ p, d.build types = .ok p := by
  have nothing : d.mentioned.find? (fun id => !decide (types.tree.Known id)) = none := by
    simpa using known
  obtain ⟨get, hget⟩ := Option.isSome_iff_exists.mp getter
  simp [build, nothing, hget, identifiers, plain.patterns_eq]

theorem Plain.matchesInput_iff (plain : d.Plain valueType) (h : d.build types = .ok p)
    (input : String) :
    p.matchesInput input = true ↔
      (∃ pattern ∈ (defaultPatterns types valueType).1, pattern.accepts input = true) ∧
        (defaultPatterns types valueType).2 input = true := by
  unfold build at h
  split at h
  · simp at h
  · split at h
    · simp at h
    · simp only [identifiers, plain.patterns_eq, plain.valueType_eq] at h
      obtain rfl := Except.ok.inj h
      simp [Provider.matchesInput, plain.acceptsInput_eq]

/-- The patterns of a named type are for its values and for its arrays, told apart by the plural. -/
theorem Plain.matchesInput_of_naming {naming : Naming} (plain : d.Plain valueType)
    (h : d.build types = .ok p)
    (element : (types.tree.component? valueType).getD valueType = type)
    (named : types.lexicon.naming? type = some naming) (input : String) :
    p.matchesInput input = true ↔
      (∃ pattern ∈ naming.patterns, pattern.accepts input = true) ∧
        isPlural naming.nouns input = types.tree.isArray valueType := by
  rw [plain.matchesInput_iff h, defaultPatterns, element, named]
  simp

/-- The nouns of a type decide about its values and about its arrays. -/
theorem Plain.matchesInput_of_named {naming : Naming} (plain : d.Plain valueType)
    (h : d.build types = .ok p)
    (element : (types.tree.component? valueType).getD valueType = type)
    (named : types.lexicon.naming? type = some naming)
    (patterns : naming.patterns = Naming.defaultPatterns naming.nouns) (input : String) :
    p.matchesInput input = true ↔
      (input = naming.nouns.singular ∨ input = naming.nouns.plural) ∧
        isPlural naming.nouns input = types.tree.isArray valueType := by
  rw [plain.matchesInput_of_naming h element named]
  simp [patterns, Naming.defaultPatterns, Pattern.accepts_either]

theorem isPlural_of_form {nouns : Nouns} {input : String}
    (form : input = nouns.singular ∨ input = nouns.plural) :
    isPlural nouns input = true ↔ input ≠ nouns.singular := by
  unfold isPlural
  split
  · rename_i singular
    simp [singular]
  · rename_i other
    obtain rfl := form.resolve_left other
    simp [other]

/-- If a type is named by a noun, its values are called by the singular, and its arrays by the
plural. A noun that is both calls one value. -/
theorem matched_by_noun {code noun : String} {plurals : List String}
    (single : types.tree.isArray type = false)
    (named : types.lexicon.naming? type = some (Naming.ofNoun code noun plurals)) :
    let plural := plurals.getLast?.getD (English.plural noun)
    (∀ d : Draft σ α, d.Plain type → ∀ p, d.build types = .ok p →
      ∀ input, p.matchesInput input = true ↔ input = noun) ∧
    ∀ array, types.tree.component? array = some type →
      ∀ d : Draft σ α, d.Plain array → ∀ p, d.build types = .ok p →
        ∀ input, p.matchesInput input = true ↔ input = plural ∧ plural ≠ noun := by
  intro plural
  rw [Naming.ofNoun_eq] at named
  have component : types.tree.component? type = none := by
    simpa [TypeTree.isArray] using single
  constructor
  · intro d plain p built input
    rw [plain.matchesInput_of_named built (by rw [component]; rfl) named rfl, single]
    constructor
    · rintro ⟨form, one⟩
      by_contra other
      simp [(isPlural_of_form form).mpr other] at one
    · rintro rfl
      exact ⟨.inl rfl, by simp [isPlural]⟩
  · intro array harray d plain p built input
    have many : types.tree.isArray array = true := by simp [TypeTree.isArray, harray]
    rw [plain.matchesInput_of_named built (by rw [harray]; rfl) named rfl, many]
    constructor
    · rintro ⟨form, several⟩
      have other : input ≠ noun := (isPlural_of_form form).mp several
      obtain rfl : input = plural := form.resolve_left other
      exact ⟨rfl, other⟩
    · rintro ⟨rfl, other⟩
      exact ⟨.inr rfl, (isPlural_of_form (.inr rfl)).mpr other⟩

/-! ## Two nouns -/

/-- Persons are the first type and sheep the second, after the root. Their arrays are the fourth and
the fifth. -/
def personsAndSheep : TypeSystem Unit Unit where
  tree :=
    let t := ["Person", "Sheep"].foldl (fun t name => (t.define name .root).1) TypeTree.initial
    ((t.arrayOf (.ofNat 1)).1.arrayOf (.ofNat 2)).1
  lexicon := ⟨[
    (.ofNat 1, .ofNoun "person" "person" ["people"]),
    (.ofNat 2, .ofNoun "sheep" "sheep" ["sheep"])]⟩

/-- A draft that leaves out whatever can be left out. -/
def plainDraft (valueType : TypeId) : Draft Unit Unit where
  contextType := .root
  valueType
  getter := some fun _ _ => none

theorem plainDraft_plain (valueType : TypeId) : (plainDraft valueType).Plain valueType :=
  ⟨rfl, rfl, rfl⟩

theorem exists_build_plainDraft (valueType : TypeId)
    (known : personsAndSheep.tree.Known valueType) :
    ∃ p, (plainDraft valueType).build personsAndSheep = .ok p := by
  refine (plainDraft_plain valueType).exists_build rfl ?_
  intro id hid
  rcases List.mem_cons.mp hid with rfl | hid
  · have root : personsAndSheep.tree.Known .root := by decide +kernel
    exact root
  · rwa [List.mem_singleton.mp hid]

/-- One person is called so, and several are people. -/
theorem people_are_persons :
    ∃ one many, (plainDraft (.ofNat 1)).build personsAndSheep = .ok one ∧
      (plainDraft (.ofNat 4)).build personsAndSheep = .ok many ∧
      ∀ input, (one.matchesInput input = true ↔ input = "person") ∧
        (many.matchesInput input = true ↔ input = "people" ∧ "people" ≠ "person") := by
  obtain ⟨one, hone⟩ := exists_build_plainDraft (.ofNat 1) (by decide +kernel)
  obtain ⟨many, hmany⟩ := exists_build_plainDraft (.ofNat 4) (by decide +kernel)
  have single : personsAndSheep.tree.isArray (.ofNat 1) = false := by decide +kernel
  have array : personsAndSheep.tree.component? (.ofNat 4) = some (.ofNat 1) := by decide +kernel
  have named : personsAndSheep.lexicon.naming? (.ofNat 1) =
      some (.ofNoun "person" "person" ["people"]) := rfl
  obtain ⟨hsingular, hplural⟩ := matched_by_noun single named
  refine ⟨one, many, hone, hmany, ?_⟩
  intro input
  exact ⟨hsingular _ (plainDraft_plain _) one hone input,
    hplural _ array _ (plainDraft_plain _) many hmany input⟩

/-- Several sheep are not called by their plural, which is the singular. -/
theorem not_all_arrays_match_plural :
    ¬ ∀ (types : TypeSystem Unit Unit) (type array : TypeId) (code noun : String)
      (plurals : List String), types.tree.isArray type = false →
        types.lexicon.naming? type = some (.ofNoun code noun plurals) →
        types.tree.component? array = some type →
        ∀ d : Draft Unit Unit, d.Plain array → ∀ p, d.build types = .ok p →
          ∀ input, p.matchesInput input = true ↔
            input = plurals.getLast?.getD (English.plural noun) := by
  intro h
  obtain ⟨many, hmany⟩ := exists_build_plainDraft (.ofNat 5) (by decide +kernel)
  have single : personsAndSheep.tree.isArray (.ofNat 2) = false := by decide +kernel
  have array : personsAndSheep.tree.component? (.ofNat 5) = some (.ofNat 2) := by decide +kernel
  have named : personsAndSheep.lexicon.naming? (.ofNat 2) =
      some (.ofNoun "sheep" "sheep" ["sheep"]) := rfl
  have matched : many.matchesInput "sheep" = true :=
    (h personsAndSheep _ _ _ _ _ single named array _ (plainDraft_plain _) many hmany _).mpr rfl
  rw [(plainDraft_plain _).matchesInput_iff hmany] at matched
  have one : (defaultPatterns personsAndSheep (.ofNat 5)).2 "sheep" = false := by decide +kernel
  simp [one] at matched

end Draft

end Provision
