import Provision.English

/-! # From a noun to its plural and back

A plural is longer than its noun and always looks like a plural. The rules of spelling find the noun
again unless they take the ending of the plural for another. -/

namespace Provision.English

/-! ## Endings -/

/-- Whether a word ends in one of several endings, with something before it. -/
def EndsBeyond (endings : List String) (word : String) : Prop :=
  ∃ ending ∈ endings, ending.toList <:+ word.toList ∧ ending.length < word.length

instance (endings : List String) (word : String) : Decidable (EndsBeyond endings word) :=
  inferInstanceAs (Decidable (∃ ending ∈ endings, _))

/-- Whether a word ends in a hissing sound, in whatever case it is written. -/
def Hissing (word : String) : Prop :=
  ∃ ending ∈ ["s", "x", "z", "ch", "sh"], ending.toList <:+ word.toList.map Char.toLower

instance (word : String) : Decidable (Hissing word) :=
  inferInstanceAs (Decidable (∃ ending ∈ _, _))

/-- The endings behind which `es` is taken off. -/
def keptEndings : List String := ["ss", "x", "zz", "ch", "sh"]

/-- The endings that an `s` makes look like those of other plurals. -/
def mistakenEndings : List String := ["ie", "xe", "sse", "che", "she", "zze"]

/-- The words that are not found again from their plurals: those that take `es` of which only the
`s` is taken off, and those that take `s` and lose a letter with it. -/
def Lost (word : String) : Prop :=
  Hissing word ∧ ¬EndsBeyond keptEndings word ∨ ¬Hissing word ∧ EndsBeyond mistakenEndings word

instance (word : String) : Decidable (Lost word) :=
  inferInstanceAs (Decidable (_ ∧ _ ∨ _ ∧ _))

/-- Whether a word, taken from its last letter, continues beyond one of several endings. -/
def Continues (endings : List String) (letters : List Char) : Prop :=
  ∃ ending ∈ endings, ∃ c stem, letters = ending.toList.reverse ++ c :: stem

theorem endsBeyond_iff (endings : List String) (word : String) :
    EndsBeyond endings word ↔ Continues endings word.toList.reverse := by
  refine exists_congr fun ending => and_congr_right fun _ => ?_
  rw [← String.length_toList, ← String.length_toList]
  constructor
  · rintro ⟨⟨front, hfront⟩, hlength⟩
    have hne : front.reverse ≠ [] := by
      intro hnil
      simp [← hfront, List.reverse_eq_nil_iff.mp hnil] at hlength
    obtain ⟨c, stem, hstem⟩ := List.exists_cons_of_ne_nil hne
    exact ⟨c, stem, by rw [← hfront, List.reverse_append, hstem]⟩
  · rintro ⟨c, stem, hstem⟩
    have hword : (c :: stem).reverse ++ ending.toList = word.toList := by
      simpa using (congrArg List.reverse hstem).symm
    refine ⟨⟨_, hword⟩, ?_⟩
    rw [← hword, List.length_append, List.length_reverse, List.length_cons]
    omega

theorem hissing_iff (word : String) :
    Hissing word ↔ hisses (word.toList.reverse.map Char.toLower) = true := by
  have hreverse : word.toList.map Char.toLower =
      (word.toList.reverse.map Char.toLower).reverse := by simp
  rw [Hissing, hreverse]
  generalize word.toList.reverse.map Char.toLower = letters
  constructor
  · rintro ⟨ending, hending, front, hfront⟩
    obtain rfl := List.reverse_eq_iff.mp hfront.symm
    simp only [List.mem_cons, List.not_mem_nil, or_false] at hending
    rcases hending with rfl | rfl | rfl | rfl | rfl <;> simp [hisses]
  · intro h
    unfold hisses at h
    split at h
    · exact ⟨"s", by simp, by simp⟩
    · exact ⟨"x", by simp, by simp⟩
    · exact ⟨"z", by simp, by simp⟩
    · exact ⟨"ch", by simp, by simp⟩
    · exact ⟨"sh", by simp, by simp⟩
    · cases h

/-! ## Letters from the last -/

section

variable {letters : List Char}

/-- The plural has one of three forms. -/
theorem pluralReversed_cases (letters : List Char) :
    (∃ c stem, letters = 'y' :: c :: stem ∧
      pluralReversed letters = 's' :: 'e' :: 'i' :: c :: stem) ∨
    (hisses (letters.map Char.toLower) = true ∧ pluralReversed letters = 's' :: 'e' :: letters) ∨
    (hisses (letters.map Char.toLower) = false ∧ pluralReversed letters = 's' :: letters) := by
  unfold pluralReversed
  split
  · rename_i c stem
    split
    · exact .inr (.inr ⟨by simp [hisses], rfl⟩)
    · exact .inl ⟨c, stem, rfl, rfl⟩
  · split
    · rename_i hissing
      exact .inr (.inl ⟨hissing, rfl⟩)
    · rename_i silent
      exact .inr (.inr ⟨by simpa using silent, rfl⟩)

theorem length_lt_pluralReversed (letters : List Char) :
    letters.length < (pluralReversed letters).length := by
  rcases pluralReversed_cases letters with ⟨c, stem, rfl, hplural⟩ | ⟨-, hplural⟩ | ⟨-, hplural⟩
  all_goals
    rw [hplural]
    simp only [List.length_cons]
    omega

/-- Of `es`, all is taken off behind certain endings. -/
theorem singularReversed_of_kept
    (h : Continues keptEndings letters) :
    singularReversed? ('s' :: 'e' :: letters) = some letters := by
  obtain ⟨ending, hending, c, stem, rfl⟩ := h
  simp only [keptEndings, List.mem_cons, List.not_mem_nil, or_false] at hending
  rcases hending with rfl | rfl | rfl | rfl | rfl <;> rfl

theorem singularReversed_of_not_kept (hissing : hisses (letters.map Char.toLower) = true)
    (h : ¬Continues keptEndings letters) :
    singularReversed? ('s' :: 'e' :: letters) = some ('e' :: letters) := by
  generalize hplural : 's' :: 'e' :: letters = plural
  unfold singularReversed?
  split
  · cases hplural
    cases hissing
  · cases hplural
    exact absurd ⟨"ss", by simp [keptEndings], _, _, rfl⟩ h
  · cases hplural
    exact absurd ⟨"x", by simp [keptEndings], _, _, rfl⟩ h
  · cases hplural
    exact absurd ⟨"ch", by simp [keptEndings], _, _, rfl⟩ h
  · cases hplural
    exact absurd ⟨"sh", by simp [keptEndings], _, _, rfl⟩ h
  · cases hplural
    exact absurd ⟨"zz", by simp [keptEndings], _, _, rfl⟩ h
  · cases hplural
    rfl
  · rename_i other
    exact absurd hplural.symm (other 'e' letters)

/-- A lone `s` takes a letter with it where the word looks like one that takes `es` or `ies`. -/
theorem singularReversed_of_mistaken
    (h : Continues mistakenEndings letters) :
    ∃ other, singularReversed? ('s' :: letters) = some other ∧ other ≠ letters := by
  obtain ⟨ending, hending, c, stem, rfl⟩ := h
  simp only [mistakenEndings, List.mem_cons, List.not_mem_nil, or_false] at hending
  rcases hending with rfl | rfl | rfl | rfl | rfl | rfl
  · exact ⟨'y' :: c :: stem, rfl, by simp⟩
  · exact ⟨'x' :: c :: stem, rfl, by simp⟩
  · exact ⟨'s' :: 's' :: c :: stem, rfl, by simp⟩
  · exact ⟨'h' :: 'c' :: c :: stem, rfl, by simp⟩
  · exact ⟨'h' :: 's' :: c :: stem, rfl, by simp⟩
  · exact ⟨'z' :: 'z' :: c :: stem, rfl, by simp⟩

theorem singularReversed_of_not_mistaken (hne : letters ≠ [])
    (silent : hisses (letters.map Char.toLower) = false)
    (h : ¬Continues mistakenEndings letters) :
    singularReversed? ('s' :: letters) = some letters := by
  generalize hplural : 's' :: letters = plural
  unfold singularReversed?
  split
  · cases hplural
    exact absurd ⟨"ie", by simp [mistakenEndings], _, _, rfl⟩ h
  · cases hplural
    exact absurd ⟨"sse", by simp [mistakenEndings], _, _, rfl⟩ h
  · cases hplural
    exact absurd ⟨"xe", by simp [mistakenEndings], _, _, rfl⟩ h
  · cases hplural
    exact absurd ⟨"che", by simp [mistakenEndings], _, _, rfl⟩ h
  · cases hplural
    exact absurd ⟨"she", by simp [mistakenEndings], _, _, rfl⟩ h
  · cases hplural
    exact absurd ⟨"zze", by simp [mistakenEndings], _, _, rfl⟩ h
  · rename_i c stem
    cases hplural
    rw [if_neg]
    rintro rfl
    cases silent
  · rename_i other
    obtain ⟨c, stem, rfl⟩ := List.exists_cons_of_ne_nil hne
    exact absurd hplural.symm (other c stem)

end

/-! ## Words -/

theorem plural_ne (word : String) : plural word ≠ word := by
  intro h
  have hletters := congrArg (fun w => w.toList.length) h
  have hlonger := length_lt_pluralReversed word.toList.reverse
  simp only [plural, String.toList_ofList, List.length_reverse] at hletters hlonger
  omega

theorem splitPlural_plural_eq {word : String} {singular : List Char}
    (h : singularReversed? (pluralReversed word.toList.reverse) = some singular) :
    splitPlural (plural word) = (.ofList singular.reverse, true) := by
  simp [splitPlural, plural, h]

/-- From the last letter, what is found is the word itself unless that is lost. -/
theorem singularReversed_pluralReversed {word : String} (hne : word ≠ "") :
    ∃ singular, singularReversed? (pluralReversed word.toList.reverse) = some singular ∧
      (singular = word.toList.reverse ↔ ¬Lost word) := by
  have hletters : word.toList.reverse ≠ [] := by simpa using hne
  rw [Lost, hissing_iff, endsBeyond_iff, endsBeyond_iff]
  generalize word.toList.reverse = letters at hletters
  rcases pluralReversed_cases letters with
    ⟨c, stem, rfl, hplural⟩ | ⟨hissing, hplural⟩ | ⟨silent, hplural⟩
  · -- `ies` gives back the `y`, and no ending of the list is in `y`
    refine ⟨'y' :: c :: stem, by rw [hplural]; rfl, ?_⟩
    simp [hisses, Continues, mistakenEndings]
  · rw [hplural]
    simp only [hissing, true_and, not_true_eq_false, false_and, or_false, Classical.not_not]
    by_cases hkept : Continues keptEndings letters
    · exact ⟨letters, singularReversed_of_kept hkept, iff_of_true rfl hkept⟩
    · refine ⟨'e' :: letters, singularReversed_of_not_kept hissing hkept, ?_⟩
      exact iff_of_false (List.cons_ne_self 'e' letters) hkept
  · rw [hplural]
    simp only [silent, Bool.false_eq_true, false_and, not_false_eq_true, true_and, false_or]
    by_cases hmistaken : Continues mistakenEndings letters
    · obtain ⟨other, hother, hne⟩ := singularReversed_of_mistaken hmistaken
      exact ⟨other, hother, iff_of_false hne (not_not_intro hmistaken)⟩
    · exact ⟨letters, singularReversed_of_not_mistaken hletters silent hmistaken,
        iff_of_true rfl hmistaken⟩

/-- A plural is recognised as such, and the singular that is found for it is the word, except for
those that are lost. -/
theorem plural_splits_back (word : String) (hne : word ≠ "") :
    (splitPlural (plural word)).2 = true ∧
      ((splitPlural (plural word)).1 = word ↔ ¬Lost word) := by
  obtain ⟨singular, hsingular, hlost⟩ := singularReversed_pluralReversed hne
  rw [splitPlural_plural_eq hsingular]
  refine ⟨rfl, ?_⟩
  rw [← hlost, ← String.toList_inj, String.toList_ofList, List.reverse_eq_iff]

/-- A box is found again among boxes, but for buses there is a buse, and for movies a movy. -/
theorem boxes_buses_and_movies :
    (splitPlural (plural "box")).1 = "box" ∧ (splitPlural (plural "bus")).1 ≠ "bus" ∧
      (splitPlural (plural "movie")).1 ≠ "movie" := by
  have found (word : String) (hne : word ≠ "") := (plural_splits_back word hne).2
  refine ⟨(found "box" (by decide)).mpr (by decide +kernel), ?_, ?_⟩
  · rw [ne_eq, found "bus" (by decide)]
    decide +kernel
  · rw [ne_eq, found "movie" (by decide)]
    decide +kernel

end Provision.English
