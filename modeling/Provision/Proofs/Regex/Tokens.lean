import Provision.Proofs.Regex.Brackets

/-! # Tokens, and what stands behind a source -/

namespace Provision.Regex

open Unicode

/-! ## Groups -/

theorem readFlags_undisturbed (seen : List Flag) (negated dangling : Bool) :
    Undisturbed (readFlags? seen negated dangling) := by
  intro text
  induction text generalizing seen negated dangling with
  | nil =>
      refine .beyond fun x left hclosed => ?_
      cases dangling with
      | false =>
          obtain ⟨-, rfl⟩ := Prod.mk.inj (Option.some.inj hclosed)
          exact List.suffix_rfl
      | true => exact nomatch hclosed
  | cons c rest ih =>
      have hrest := List.suffix_cons c rest
      simp only [List.cons_append, readFlags?]
      split
      · split
        · exact .fails
        · exact .leaves _ hrest
      · split
        · exact .fails
        · exact .leaves _ hrest
      · split
        · exact .fails
        · exact (ih _ _ _).mono hrest
      · cases Flag.ofChar? c with
        | none => exact .fails
        | some flag =>
            simp only [Option.bind_eq_bind, Option.bind_some]
            split
            · exact .fails
            · exact ((ih _ _ _).mono hrest).bindValue fun found =>
                some ((flag, !negated) :: found.1, found.2)

theorem readKind_undisturbed : Undisturbed readKind? := by
  have hkind : ∀ found : FlagChange × Bool, Undisturbed fun left =>
      if found.2 then some (Token.openGroup (.scoped found.1), left)
      else if found.1.isEmpty then none
      else some (.directive found.1, left) := by
    intro found left
    dsimp only
    split
    · exact .leaves _ List.suffix_rfl
    · split
      · exact .fails
      · exact .leaves _ List.suffix_rfl
  have hflags := (readFlags_undisturbed [] false false).bind hkind
  have hother : ∀ text, (∀ rest, text ≠ ['P', '<'] ++ rest) → (∀ rest, text ≠ ['<'] ++ rest) →
      readKind? text = (readFlags? [] false false text).bind fun found =>
        if found.1.2 then some (Token.openGroup (.scoped found.1.1), found.2)
        else if found.1.1.isEmpty then none
        else some (.directive found.1.1, found.2) := by
    intro text hlong hshort
    unfold readKind?
    split
    · exact absurd rfl (hlong _)
    · exact absurd rfl (hshort _)
    · rfl
  intro text
  rcases mark_closing_cases (show ')' ∉ ['P', '<'] by decide) text with
    ⟨rest, rfl⟩ | ⟨hlong, hlongClosed⟩
  · exact (readName_undisturbed rest).mono (List.suffix_append _ rest)
  · rcases mark_closing_cases (show ')' ∉ ['<'] by decide) text with
      ⟨rest, rfl⟩ | ⟨hshort, hshortClosed⟩
    · exact (readName_undisturbed rest).mono (List.suffix_append _ rest)
    · rw [hother _ hlong hshort, hother _ hlongClosed hshortClosed]
      exact hflags text

theorem readGroup_undisturbed (spaced : Bool) : Undisturbed (readGroup? spaced) := by
  intro text
  rcases skip_closing_cases spaced text with
    ⟨halone, hclosed | hclosed⟩ | ⟨c, rest, hsuffix, halone, hclosed⟩
  · simp only [readGroup?, halone, hclosed]
    exact .leaves _ List.suffix_rfl
  · simp only [readGroup?, halone, hclosed]
    exact .leaves _ List.suffix_rfl
  · by_cases hmark : c = '?'
    · subst hmark
      simp only [readGroup?, halone, hclosed]
      exact (readKind_undisturbed rest).mono ((List.suffix_cons '?' rest).trans hsuffix)
    · have hopen : ∀ text rest, skip spaced text = c :: rest →
          readGroup? spaced text = some (.openGroup (.capture none), text) := by
        intro text rest h
        simp [readGroup?, h, hmark]
      rw [hopen _ _ halone, hopen _ _ hclosed]
      exact .leaves _ List.suffix_rfl

/-! ## Repetitions -/

theorem dropLazy_suffix (spaced : Bool) (text : List Char) : dropLazy spaced text <:+ text := by
  have hskip := skip_suffix spaced text
  unfold dropLazy
  split
  · rename_i rest hmark
    exact (List.suffix_cons '?' rest).trans (hmark ▸ hskip)
  · exact List.suffix_rfl

theorem dropLazy_closing (spaced : Bool) (text : List Char) :
    dropLazy spaced (text ++ closing) = dropLazy spaced text ++ closing := by
  rcases skip_closing_cases spaced text with
    ⟨halone, hclosed | hclosed⟩ | ⟨c, rest, -, halone, hclosed⟩
  · simp only [dropLazy, halone, hclosed]
  · simp only [dropLazy, halone, hclosed]
    rfl
  · by_cases hmark : c = '?'
    · subst hmark
      simp only [dropLazy, halone, hclosed]
    · simp [dropLazy, halone, hclosed, hmark]

theorem Passes.thenBlanks {α : Type} {text : List Char} {alone closed : α × List Char}
    (h : Passes text alone closed) (spaced : Bool) :
    Passes text (alone.1, skip spaced (alone.2.dropWhile isWhitespace))
      (closed.1, skip spaced (closed.2.dropWhile isWhitespace)) := by
  have hblanks := skip_passes spaced (alone.2.dropWhile isWhitespace)
  refine ⟨(hblanks.suffix.trans (List.dropWhile_suffix _)).trans h.suffix, ?_⟩
  rcases h.closed_eq with hclosed | ⟨hrest, hclosed⟩
  · rw [hclosed, dropWhile_closing]
    rcases hblanks.closed_eq with hskip | ⟨hend, hskip⟩
    · exact .inl (congrArg (alone.1, ·) (congrArg Prod.snd hskip))
    · exact .inr ⟨hend, congrArg (alone.1, ·) (congrArg Prod.snd hskip)⟩
  · rw [hclosed, hrest]
    exact .inr ⟨by cases spaced <;> rfl, by cases spaced <;> rfl⟩

theorem takeCount_bind {α : Type} {next : Nat → List Char → Option (α × List Char)} (spaced : Bool)
    (hnext : ∀ count, Undisturbed (next count)) (hend : ∀ count, next count [] = none) :
    Undisturbed fun text =>
      (takeCount? spaced text).bind fun found => next found.1 found.2 := by
  have hcount : ∀ digits, Undisturbed fun rest => (countOf? digits).bind (next · rest) := by
    intro digits rest
    cases countOf? digits with
    | none => exact .fails
    | some count => exact hnext count rest
  have hnone : ∀ digits, ((countOf? digits).bind (next · [])) = none := by
    intro digits
    cases countOf? digits with
    | none => rfl
    | some count => exact hend count
  have heq : ∀ text, ((takeCount? spaced text).bind fun found => next found.1 found.2) =
      (countOf? (takeSpaced spaced Char.isDigit false (text.dropWhile isWhitespace)).1).bind
        (next · (skip spaced ((takeSpaced spaced Char.isDigit false
          (text.dropWhile isWhitespace)).2.dropWhile isWhitespace))) := by
    intro text
    unfold takeCount?
    generalize takeSpaced spaced Char.isDigit false (text.dropWhile isWhitespace) = found
    cases h : countOf? found.1 <;> simp [h]
  intro text
  have hpass := takeSpaced_passes spaced false Char.isDigit (by decide)
    (text.dropWhile isWhitespace)
  rw [← dropWhile_closing] at hpass
  simp only [heq]
  exact ((hpass.thenBlanks spaced).bind hcount hnone).mono (List.dropWhile_suffix _)

theorem closeCounts_undisturbed (spaced : Bool) (least : Nat) (most : Option Nat) :
    Undisturbed (closeCounts? spaced least most) := by
  refine .byMark (show ')' ∉ ['}'] by decide) ?_ ?_ fun _ => .fails
  · intro rest
    simp only [List.cons_append, List.nil_append, closeCounts?, dropLazy_closing]
    split
    · exact .fails
    · exact .leaves _ ((dropLazy_suffix spaced rest).trans (List.suffix_cons '}' rest))
  · intro text hother
    unfold closeCounts?
    split
    · exact absurd rfl (hother _)
    · rfl

theorem readMost_undisturbed (spaced : Bool) (least : Nat) :
    Undisturbed (readMost? spaced least) := by
  have hcount := takeCount_bind spaced
    (fun most => closeCounts_undisturbed spaced least (some most)) fun _ => rfl
  refine .byMark (show ')' ∉ ['}'] by decide) ?_ ?_ hcount
  · exact fun rest => closeCounts_undisturbed spaced least none ('}' :: rest)
  · intro text hother
    unfold readMost?
    split
    · exact absurd rfl (hother _)
    · rfl

theorem readBound_undisturbed (spaced : Bool) (least : Nat) :
    Undisturbed (readBound? spaced least) := by
  have hmost := (readMost_undisturbed spaced least).skipped (by cases spaced <;> rfl) spaced
  have hleast := closeCounts_undisturbed spaced least (some least)
  refine .byMark (show ')' ∉ [','] by decide) ?_ ?_ hleast
  · exact fun rest => (hmost rest).mono (List.suffix_cons ',' rest)
  · intro text hother
    unfold readBound?
    split
    · exact absurd rfl (hother _)
    · rfl

theorem readCounts_undisturbed (spaced : Bool) : Undisturbed (readCounts? spaced) := by
  have hcounts := takeCount_bind spaced (readBound_undisturbed spaced) fun _ => rfl
  exact hcounts.skipped (by cases spaced <;> rfl) spaced

/-! ## Tokens -/

theorem readToken_undisturbed (spaced : Bool) (c : Char) :
    Undisturbed fun rest => readToken? spaced (c :: rest) := by
  intro rest
  simp only [readToken?, dropLazy_closing]
  split
  · exact readGroup_undisturbed spaced rest
  · exact .leaves _ List.suffix_rfl
  · exact .leaves _ List.suffix_rfl
  · exact (readBracket_undisturbed spaced rest).map fun cls => Token.element (.set cls)
  · exact .leaves _ (dropLazy_suffix false rest)
  · exact .leaves _ (dropLazy_suffix false rest)
  · exact .leaves _ (dropLazy_suffix false rest)
  · exact readCounts_undisturbed spaced rest
  · exact (readEscape_undisturbed spaced rest).map Token.element
  all_goals exact .leaves _ List.suffix_rfl

end Provision.Regex
