import Provision.Proofs.DefaultIdentifiers

/-! # Patterns that users choose for a noun

A naming does not keep where its patterns come from: they count as made from the nouns if they read
like those that are. So patterns that were chosen stay through changes of the plural as long as they
read differently from the default ones each time. Once they read the same, the next change takes
them for these, and they follow the plural from then on. -/

namespace Provision

theorem Pattern.sources_of_compile {sources : List String} {patterns : List Pattern}
    (h : sources.mapM compile = .ok patterns) : patterns.map (·.source) = sources := by
  induction sources generalizing patterns with
  | nil =>
      obtain rfl := Except.ok.inj h
      rfl
  | cons source sources ih =>
      rw [List.mapM_cons] at h
      cases hfirst : compile source with
      | error e => simp [hfirst, bind, Except.bind] at h
      | ok p =>
          cases hrest : sources.mapM compile with
          | error e => simp [hfirst, hrest, bind, Except.bind] at h
          | ok rest =>
              rw [hfirst, hrest] at h
              obtain rfl : p :: rest = patterns := Except.ok.inj h
              rw [List.map_cons, source_of_compile hfirst, ih hrest]

namespace Naming

/-! ## Changes of a naming -/

/-- What can be changed: the plural noun, or the patterns as a whole. -/
inductive Change
  | plural (noun : String)
  | patterns (sources : List String)

def Change.plural? : Change → Option String
  | .plural noun => some noun
  | .patterns _ => none

def change (n : Naming) : Change → Except InvalidPattern Naming
  | .plural noun => .ok (n.withPlural noun)
  | .patterns sources => n.withPatterns sources

/-- One change after the other, up to the first that is refused. -/
def changeAll (n : Naming) (changes : List Change) : Except InvalidPattern Naming :=
  changes.foldlM change n

/-- The plural that changes lead to: the last that was set, or the first one if none was. -/
def lastPlural (first : String) (changes : List Change) : String :=
  (changes.filterMap Change.plural?).getLast?.getD first

section

variable {n m : Naming} {c : Change} {changes : List Change} {sources : List String}

theorem withPatterns_eq_ok_iff :
    n.withPatterns sources = .ok m ↔
      ∃ given, sources.mapM Pattern.compile = .ok given ∧ m = { n with patterns := given } := by
  unfold withPatterns
  cases sources.mapM Pattern.compile with
  | error e => simp [bind, Except.bind]
  | ok given => simp [bind, Except.bind, pure, Except.pure, eq_comm]

theorem changeAll_cons_eq_ok_iff :
    n.changeAll (c :: changes) = .ok m ↔
      ∃ next, n.change c = .ok next ∧ next.changeAll changes = .ok m := by
  unfold changeAll
  rw [List.foldlM_cons]
  cases n.change c with
  | error e => simp [bind, Except.bind]
  | ok next => simp [bind, Except.bind]

theorem changeAll_append_eq_ok_iff {before after : List Change} :
    n.changeAll (before ++ after) = .ok m ↔
      ∃ next, n.changeAll before = .ok next ∧ next.changeAll after = .ok m := by
  unfold changeAll
  rw [List.foldlM_append]
  cases before.foldlM change n with
  | error e => simp [bind, Except.bind]
  | ok next => simp [bind, Except.bind]

theorem exists_change_iff :
    (∃ m, n.change c = .ok m) ↔
      ∀ sources, c = .patterns sources → ∃ given, sources.mapM Pattern.compile = .ok given := by
  cases c with
  | plural noun => simp [change]
  | patterns sources => simp [change, withPatterns_eq_ok_iff]

theorem exists_changeAll_iff :
    (∃ m, n.changeAll changes = .ok m) ↔
      ∀ sources, .patterns sources ∈ changes →
        ∃ given, sources.mapM Pattern.compile = .ok given := by
  induction changes generalizing n with
  | nil => simp [changeAll, pure, Except.pure]
  | cons c changes ih =>
      simp only [changeAll_cons_eq_ok_iff, List.mem_cons]
      constructor
      · rintro ⟨m, next, hnext, hm⟩ sources (hfirst | hrest)
        · exact exists_change_iff.mp ⟨next, hnext⟩ sources hfirst.symm
        · exact ih.mp ⟨m, hm⟩ sources hrest
      · intro h
        obtain ⟨next, hnext⟩ := exists_change_iff.mpr fun sources hc => h sources (.inl hc.symm)
        obtain ⟨m, hm⟩ := ih (n := next).mpr fun sources hmem => h sources (.inr hmem)
        exact ⟨m, next, hnext, hm⟩

/-- A change keeps the code and the singular, and sets the plural if it is one. -/
theorem nouns_of_change (h : n.change c = .ok m) :
    m.code = n.code ∧ m.nouns = ⟨n.nouns.singular, c.plural?.getD n.nouns.plural⟩ := by
  cases c with
  | plural noun =>
      obtain rfl := Except.ok.inj h
      exact ⟨rfl, rfl⟩
  | patterns sources =>
      obtain ⟨given, -, rfl⟩ := withPatterns_eq_ok_iff.mp h
      exact ⟨rfl, rfl⟩

theorem nouns_of_changeAll (h : n.changeAll changes = .ok m) :
    m.code = n.code ∧ m.nouns = ⟨n.nouns.singular, lastPlural n.nouns.plural changes⟩ := by
  induction changes generalizing n with
  | nil =>
      obtain rfl := Except.ok.inj h
      exact ⟨rfl, rfl⟩
  | cons c changes ih =>
      obtain ⟨next, hnext, hm⟩ := changeAll_cons_eq_ok_iff.mp h
      obtain ⟨hcode, hnouns⟩ := ih hm
      obtain ⟨hcode', hnouns'⟩ := nouns_of_change hnext
      refine ⟨hcode.trans hcode', ?_⟩
      rw [hnouns, hnouns']
      cases c <;> simp [lastPlural, Change.plural?, List.getLast?_cons]

end

/-! ## Changes of the plural alone -/

theorem exists_plurals {changes : List Change}
    (h : ∀ sources, .patterns sources ∉ changes) :
    ∃ plurals : List String, changes = plurals.map .plural := by
  induction changes with
  | nil => exact ⟨[], rfl⟩
  | cons c changes ih =>
      obtain ⟨plurals, rfl⟩ := ih fun sources hmem => h sources (List.mem_cons_of_mem c hmem)
      cases c with
      | plural noun => exact ⟨noun :: plurals, rfl⟩
      | patterns sources => exact absurd List.mem_cons_self (h sources)

theorem changeAll_plurals (n : Naming) (plurals : List String) :
    n.changeAll (plurals.map .plural) = .ok (plurals.foldl withPlural n) := by
  induction plurals generalizing n with
  | nil => rfl
  | cons noun plurals ih => exact ih (n.withPlural noun)

theorem lastPlural_plurals (first : String) (plurals : List String) :
    lastPlural first (plurals.map .plural) = plurals.getLast?.getD first := by
  simp [lastPlural, List.filterMap_map, Function.comp_def, Change.plural?]

/-- The plurals that are given up when others are set after a first one, each for the next. -/
def replaced (first : String) (plurals : List String) : List String :=
  (first :: plurals).dropLast

theorem replaced_cons (first noun : String) (plurals : List String) :
    replaced first (noun :: plurals) = first :: replaced noun plurals := rfl

/-- Patterns that never read like the default ones when the plural changes stay as they are. All
others end as the default ones for the last plural. -/
theorem patterns_foldl_withPlural (n : Naming) (plurals : List String) :
    (plurals.foldl withPlural n).patterns =
      if ∃ noun ∈ replaced n.nouns.plural plurals,
          (n.patterns == defaultPatterns ⟨n.nouns.singular, noun⟩) = true then
        defaultPatterns ⟨n.nouns.singular, plurals.getLast?.getD n.nouns.plural⟩
      else n.patterns := by
  induction plurals generalizing n with
  | nil => simp [replaced]
  | cons noun plurals ih =>
      rw [List.foldl_cons]
      by_cases same : (n.patterns == defaultPatterns n.nouns) = true
      · have hdefault : (n.withPlural noun).patterns =
            defaultPatterns (n.withPlural noun).nouns := by simp [withPlural, same]
        rw [foldl_withPlural_of_default hdefault,
          if_pos ⟨n.nouns.plural, by simp [replaced_cons], same⟩]
        simp [withPlural, List.getLast?_cons]
      · have hkept : n.withPlural noun = { n with nouns := ⟨n.nouns.singular, noun⟩ } := by
          simp [withPlural, same]
        rw [ih, hkept, replaced_cons]
        simp [same, List.getLast?_cons]

/-! ## The last choice of patterns -/

/-- What is left of a last choice of patterns after further changes of the plural. -/
theorem patterns_of_chosen {n m : Naming} {sources plurals : List String}
    (h : n.changeAll (.patterns sources :: plurals.map .plural) = .ok m) :
    ∃ given, sources.mapM Pattern.compile = .ok given ∧
      m.patterns =
        if ∃ noun ∈ replaced n.nouns.plural plurals,
            sources = [(Pattern.either n.nouns.singular noun).source] then
          [.either n.nouns.singular m.nouns.plural]
        else given := by
  obtain ⟨next, hnext, hm⟩ := changeAll_cons_eq_ok_iff.mp h
  obtain ⟨given, hgiven, rfl⟩ := withPatterns_eq_ok_iff.mp hnext
  obtain ⟨-, hnouns⟩ := nouns_of_changeAll h
  rw [changeAll_plurals] at hm
  obtain rfl := Except.ok.inj hm
  have hlast : lastPlural n.nouns.plural (.patterns sources :: plurals.map .plural) =
      plurals.getLast?.getD n.nouns.plural := lastPlural_plurals n.nouns.plural plurals
  have hreads (noun : String) :
      (given == defaultPatterns ⟨n.nouns.singular, noun⟩) = true ↔
        sources = [(Pattern.either n.nouns.singular noun).source] := by
    rw [Pattern.beq_list_iff, Pattern.sources_of_compile hgiven]
    rfl
  refine ⟨given, hgiven, ?_⟩
  rw [patterns_foldl_withPlural, hnouns, hlast]
  simp only [hreads]
  rfl

/-- After any changes of a naming by a noun, none of which is refused, the plural is the one set
last, or the derived one. If no patterns were chosen, the one pattern is that of the two nouns. The
patterns chosen last are as they were given unless their source reads like that of the two nouns
when the plural is set again: then the one pattern is that of the nouns, too. -/
theorem chosen_patterns_kept_unless_default (code noun : String) (changes : List Change) :
    ((∃ n, (new code noun).changeAll changes = .ok n) ↔
      ∀ sources, .patterns sources ∈ changes →
        ∃ given, sources.mapM Pattern.compile = .ok given) ∧
    ∀ n, (new code noun).changeAll changes = .ok n →
      let plural := lastPlural (English.plural noun)
      n.code = code ∧ n.nouns = ⟨noun, plural changes⟩ ∧
      ((∀ sources, .patterns sources ∉ changes) →
        n.patterns = [.either noun (plural changes)]) ∧
      ∀ before sources plurals, changes = before ++ .patterns sources :: plurals.map .plural →
        ∃ given, sources.mapM Pattern.compile = .ok given ∧
          n.patterns =
            if ∃ other ∈ replaced (plural before) plurals,
                sources = [(Pattern.either noun other).source] then
              [.either noun (plural changes)]
            else given := by
  refine ⟨exists_changeAll_iff, ?_⟩
  intro n hn plural
  obtain ⟨hcode, hnouns⟩ := nouns_of_changeAll hn
  refine ⟨hcode, hnouns, ?_, ?_⟩
  · intro unchosen
    obtain ⟨plurals, rfl⟩ := exists_plurals unchosen
    rw [changeAll_plurals] at hn
    obtain rfl := Except.ok.inj hn
    rw [foldl_withPlural_of_default rfl]
    simp only [plural, lastPlural_plurals]
    rfl
  · rintro before sources plurals rfl
    obtain ⟨next, hnext, hafter⟩ := changeAll_append_eq_ok_iff.mp hn
    obtain ⟨-, hnouns'⟩ := nouns_of_changeAll hnext
    have hchosen := patterns_of_chosen hafter
    rw [hnouns', hnouns] at hchosen
    exact hchosen

/-- Folks stay folks when persons are no longer people. Persons or people become persons or folk,
though this was chosen before people were the plural. -/
theorem folks_kept_and_people_lost :
    (∃ n, (new "person" "person").changeAll
          [.plural "people", .patterns ["folks?"], .plural "persons"] = .ok n ∧
        n.nouns = ⟨"person", "persons"⟩ ∧ n.patterns.map (·.source) = ["folks?"]) ∧
      ∃ n, (new "person" "person").changeAll
          [.patterns ["person|people"], .plural "people", .plural "folk"] = .ok n ∧
        n.nouns = ⟨"person", "folk"⟩ ∧ n.patterns = [.either "person" "folk"] := by
  have compiles (source : String) (h : (Pattern.compile source).isOk = true) :
      ∃ given, [source].mapM Pattern.compile = .ok given := by
    cases hsource : Pattern.compile source with
    | error e => simp [hsource, Except.isOk, Except.toBool] at h
    | ok p => exact ⟨[p], by simp [hsource, bind, Except.bind, pure, Except.pure]⟩
  obtain ⟨hkept, hnouns⟩ := chosen_patterns_kept_unless_default "person" "person"
    [.plural "people", .patterns ["folks?"], .plural "persons"]
  obtain ⟨hlost, hnouns'⟩ := chosen_patterns_kept_unless_default "person" "person"
    [.patterns ["person|people"], .plural "people", .plural "folk"]
  constructor
  · have hfolks := compiles "folks?" (by decide +kernel)
    obtain ⟨n, hn⟩ := hkept.mpr (by simpa using hfolks)
    obtain ⟨-, hplural, -, hchosen⟩ := hnouns n hn
    obtain ⟨given, hgiven, hpatterns⟩ := hchosen [.plural "people"] ["folks?"] ["persons"] rfl
    rw [if_neg (by decide +kernel)] at hpatterns
    refine ⟨n, hn, hplural, ?_⟩
    rw [hpatterns, Pattern.sources_of_compile hgiven]
  · have hpeople := compiles "person|people" (by decide +kernel)
    obtain ⟨n, hn⟩ := hlost.mpr (by simpa using hpeople)
    obtain ⟨-, hplural, -, hchosen⟩ := hnouns' n hn
    obtain ⟨given, -, hpatterns⟩ := hchosen [] ["person|people"] ["people", "folk"] rfl
    rw [if_pos (by decide +kernel)] at hpatterns
    exact ⟨n, hn, hplural, hpatterns⟩

/-- A choice that reads like the noun's own pattern is lost with the next plural. -/
theorem not_all_chosen_patterns_kept :
    ¬ ∀ (code noun : String) (before : List Change) (sources plurals : List String) (n : Naming),
      (new code noun).changeAll (before ++ .patterns sources :: plurals.map .plural) = .ok n →
        n.patterns.map (·.source) = sources := by
  intro h
  have hlost : ((new "player" "player").changeAll
      [.patterns ["player|players"], .plural "people"]).toOption.any
        (fun n => n.patterns.map (·.source) = ["player|people"]) = true := by decide +kernel
  cases hn : (new "player" "player").changeAll [.patterns ["player|players"], .plural "people"] with
  | error e => simp [hn, Except.toOption] at hlost
  | ok n =>
      have hsources : n.patterns.map (·.source) = ["player|people"] := by
        simpa [hn, Except.toOption] using hlost
      have hkept := h "player" "player" [] ["player|players"] ["people"] n hn
      rw [hsources] at hkept
      exact absurd hkept (by decide)

end Naming

end Provision
