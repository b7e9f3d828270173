import Mathlib.Tactic.SplitIfs
import Provision.Regex.Token

/-! # Readers, and what stands behind a source

A source is read between brackets that are not its own, so that a closing bracket and the mark of
the end stand behind it. No reader comes to another result by them than without, but one that
fails at the end of the source alone may go on into them. -/

namespace Provision.Regex

open Unicode

/-- What stands behind a source. -/
def closing : List Char := [')', '$']

/-! ## Readers -/

/-- What is read of a text alone, and of the same text with the closing behind it. -/
structure Agrees {α : Type} (text : List Char) (alone closed : Option (α × List Char)) : Prop where
  suffix : ∀ {x left}, alone = some (x, left) → left <:+ text
  onward : ∀ {x left}, alone = some (x, left) → closed = some (x, left ++ closing)
  back : ∀ {x left}, closed = some (x, left) →
    left <:+ ['$'] ∨ ∃ inner, left = inner ++ closing ∧ alone = some (x, inner)

/-- A reader of the beginning of a text that is not disturbed by the closing behind it. -/
def Undisturbed {α : Type} (read : List Char → Option (α × List Char)) : Prop :=
  ∀ text, Agrees text (read text) (read (text ++ closing))

section

variable {α β : Type} {text : List Char} {alone closed : Option (α × List Char)}

namespace Agrees

theorem fails : Agrees text (none : Option (α × List Char)) none :=
  ⟨nofun, nofun, nofun⟩

theorem leaves (x : α) {left : List Char} (h : left <:+ text) :
    Agrees text (some (x, left)) (some (x, left ++ closing)) := by
  constructor
  · rintro _ _ ⟨⟩
    exact h
  · rintro _ _ ⟨⟩
    rfl
  · rintro _ _ ⟨⟩
    exact .inr ⟨left, rfl, rfl⟩

/-- A reader that fails at the end of a source may go into the closing. -/
theorem beyond (h : ∀ x left, closed = some (x, left) → left <:+ ['$']) :
    Agrees text none closed :=
  ⟨nofun, nofun, fun hclosed => .inl (h _ _ hclosed)⟩

/-- What a reader leaves of a text is at the end of each text that this one is the end of. -/
theorem mono {longer : List Char} (h : Agrees text alone closed) (hlonger : text <:+ longer) :
    Agrees longer alone closed :=
  ⟨fun halone => (h.suffix halone).trans hlonger, h.onward, h.back⟩

theorem bind {next : α → List Char → Option (β × List Char)} (h : Agrees text alone closed)
    (hnext : ∀ x, Undisturbed (next x)) :
    Agrees text (alone.bind fun found => next found.1 found.2)
      (closed.bind fun found => next found.1 found.2) := by
  constructor
  · intro y left hy
    obtain ⟨⟨x, rest⟩, hx, hy⟩ := Option.bind_eq_some_iff.mp hy
    exact ((hnext x rest).suffix hy).trans (h.suffix hx)
  · intro y left hy
    obtain ⟨⟨x, rest⟩, hx, hy⟩ := Option.bind_eq_some_iff.mp hy
    rw [h.onward hx]
    exact (hnext x rest).onward hy
  · intro y left hy
    obtain ⟨⟨x, rest⟩, hx, hy⟩ := Option.bind_eq_some_iff.mp hy
    rcases h.back hx with hrest | ⟨inner, rfl, halone⟩
    · exact .inl (((hnext x rest).suffix hy).trans hrest)
    · rw [halone]
      exact (hnext x inner).back hy

theorem bindValue (h : Agrees text alone closed) (f : α → Option β) :
    Agrees text (alone.bind fun found => (f found.1).map (·, found.2))
      (closed.bind fun found => (f found.1).map (·, found.2)) := by
  have hvalue : ∀ x, Undisturbed fun rest => (f x).map (·, rest) := by
    intro x rest
    cases f x with
    | none => exact .fails
    | some y => exact .leaves y List.suffix_rfl
  exact h.bind hvalue

theorem map (h : Agrees text alone closed) (f : α → β) :
    Agrees text (alone.map fun found => (f found.1, found.2))
      (closed.map fun found => (f found.1, found.2)) := by
  have hsame : ∀ found : Option (α × List Char), found.map (fun found => (f found.1, found.2)) =
      found.bind fun found => (some (f found.1)).map (·, found.2) := by
    intro found
    cases found <;> rfl
  rw [hsame, hsame]
  exact h.bindValue fun x => some (f x)

end Agrees

/-- A reader that fails at the end of a text is looked at character by character. -/
theorem Undisturbed.of_cons {read : List Char → Option (α × List Char)} (hnil : read [] = none)
    (hcons : ∀ c, Undisturbed fun rest => read (c :: rest)) : Undisturbed read := by
  intro text
  cases text with
  | nil =>
      rw [hnil]
      refine .beyond fun x left hclosed => ?_
      exact (hcons ')' ['$']).suffix hclosed
  | cons c rest => exact (hcons c rest).mono (List.suffix_cons c rest)

theorem Undisturbed.bind {read : List Char → Option (α × List Char)}
    {next : α → List Char → Option (β × List Char)} (hread : Undisturbed read)
    (hnext : ∀ x, Undisturbed (next x)) :
    Undisturbed fun text => (read text).bind fun found => next found.1 found.2 :=
  fun text => (hread text).bind hnext

theorem Undisturbed.ofOption (value : Option α) (f : α → β) :
    Undisturbed fun text => value.bind fun x => some (f x, text) := by
  intro text
  cases value with
  | none => exact .fails
  | some x => exact .leaves (f x) List.suffix_rfl

/-- A text begins with a mark if and only if it does so with the closing behind it, but for the
bracket. -/
theorem mark_closing_cases {mark : List Char} (hmark : ')' ∉ mark) (text : List Char) :
    (∃ rest, text = mark ++ rest) ∨
    (∀ rest, text ≠ mark ++ rest) ∧ ∀ rest, text ++ closing ≠ mark ++ rest := by
  by_cases hbegins : ∃ rest, text = mark ++ rest
  · exact .inl hbegins
  · refine .inr ⟨fun rest h => hbegins ⟨rest, h⟩, fun rest h => hbegins ?_⟩
    rcases List.append_eq_append_iff.mp h with ⟨more, rfl, hclosing⟩ | ⟨inner, htext, -⟩
    · cases more with
      | nil => exact ⟨[], by simp⟩
      | cons c more =>
          have hc : ')' = c := (List.cons.inj hclosing).1
          exact absurd (List.mem_append_right text (hc ▸ List.mem_cons_self)) hmark
    · exact ⟨inner, htext⟩

/-- A reader may do something of its own behind a mark, if it does not look for the bracket. -/
theorem Undisturbed.byMark {read other : List Char → Option (α × List Char)} {mark : List Char}
    (hmark : ')' ∉ mark)
    (hread : ∀ rest,
      Agrees (mark ++ rest) (read (mark ++ rest)) (read (mark ++ (rest ++ closing))))
    (hsame : ∀ text, (∀ rest, text ≠ mark ++ rest) → read text = other text)
    (hother : Undisturbed other) : Undisturbed read := by
  intro text
  rcases mark_closing_cases hmark text with ⟨rest, rfl⟩ | ⟨halone, hclosed⟩
  · rw [List.append_assoc]
    exact hread rest
  · rw [hsame _ halone, hsame _ hclosed]
    exact hother text

end

/-! ## Blanks -/

theorem isWhitespace_bracket : isWhitespace ')' = false := by decide +kernel

theorem isWhitespace_end : isWhitespace '$' = false := by decide +kernel

/-- Whether a text of blanks and comments ends inside of a comment. -/
def endsInComment (inComment : Bool) : List Char → Bool
  | [] => inComment
  | c :: rest =>
    if inComment then endsInComment (c != '\n') rest
    else if isWhitespace c then endsInComment false rest
    else if c == '#' then endsInComment true rest
    else false

theorem skipBlanks_closing (inComment : Bool) (text : List Char) :
    skipBlanks inComment (text ++ closing) =
      if endsInComment inComment text then [] else skipBlanks inComment text ++ closing := by
  induction text generalizing inComment with
  | nil => cases inComment <;> decide +kernel
  | cons c rest ih =>
      simp only [List.cons_append, skipBlanks, endsInComment]
      split
      · exact ih _
      · split
        · exact ih _
        · split
          · exact ih _
          · rfl

theorem skipBlanks_of_endsInComment {inComment : Bool} {text : List Char}
    (h : endsInComment inComment text = true) : skipBlanks inComment text = [] := by
  induction text generalizing inComment with
  | nil => rfl
  | cons c rest ih =>
      unfold endsInComment at h
      unfold skipBlanks
      split_ifs at h ⊢ with hinside hblank hmark
      · exact ih h
      · exact ih h
      · exact ih h

theorem skipBlanks_suffix (inComment : Bool) (text : List Char) :
    skipBlanks inComment text <:+ text := by
  induction text generalizing inComment with
  | nil => exact List.suffix_rfl
  | cons c rest ih =>
      unfold skipBlanks
      have hrest : ∀ b, skipBlanks b rest <:+ c :: rest := fun b =>
        (ih b).trans (List.suffix_cons c rest)
      split_ifs with hinside hblank hmark
      · exact hrest _
      · exact hrest _
      · exact hrest _
      · exact List.suffix_rfl

theorem skip_suffix (spaced : Bool) (text : List Char) : skip spaced text <:+ text := by
  unfold skip
  split
  · exact skipBlanks_suffix false text
  · exact List.suffix_rfl

/-- Blanks end where they do without the closing, unless a comment takes the closing in. -/
theorem skip_closing (spaced : Bool) (text : List Char) :
    skip spaced (text ++ closing) =
      if spaced && endsInComment false text then [] else skip spaced text ++ closing := by
  cases spaced with
  | false => rfl
  | true => simp only [skip, if_true, skipBlanks_closing, Bool.true_and]

theorem skip_of_endsInComment {spaced : Bool} {text : List Char}
    (h : (spaced && endsInComment false text) = true) : skip spaced text = [] := by
  obtain ⟨rfl, hends⟩ := Bool.and_eq_true_iff.mp h
  exact skipBlanks_of_endsInComment hends

/-- Behind the blanks there is the same character, or the text is at its end. -/
theorem skip_closing_cases (spaced : Bool) (text : List Char) :
    (skip spaced text = [] ∧
      (skip spaced (text ++ closing) = [] ∨ skip spaced (text ++ closing) = closing)) ∨
    ∃ c rest, c :: rest <:+ text ∧ skip spaced text = c :: rest ∧
      skip spaced (text ++ closing) = c :: (rest ++ closing) := by
  have hsuffix := skip_suffix spaced text
  rw [skip_closing]
  split
  · rename_i h
    exact .inl ⟨skip_of_endsInComment h, .inl rfl⟩
  · cases hskip : skip spaced text with
    | nil => exact .inl ⟨rfl, .inr rfl⟩
    | cons c rest => exact .inr ⟨c, rest, hskip ▸ hsuffix, rfl, rfl⟩

/-! ## Passes -/

/-- What is passed over at the beginning of a text, and what is left: the same with the closing
behind it, or the text is at its end and the closing is passed over, too. -/
structure Passes {α : Type} (text : List Char) (alone closed : α × List Char) : Prop where
  suffix : alone.2 <:+ text
  closed_eq : closed = (alone.1, alone.2 ++ closing) ∨ alone.2 = [] ∧ closed = (alone.1, [])

theorem Passes.mono {α : Type} {text longer : List Char} {alone closed : α × List Char}
    (h : Passes text alone closed) (hlonger : text <:+ longer) : Passes longer alone closed :=
  ⟨h.suffix.trans hlonger, h.closed_eq⟩

theorem Passes.map {α β : Type} {text : List Char} {alone closed : α × List Char}
    (h : Passes text alone closed) (f : α → β) :
    Passes text (f alone.1, alone.2) (f closed.1, closed.2) := by
  refine ⟨h.suffix, ?_⟩
  rcases h.closed_eq with hclosed | ⟨hrest, hclosed⟩
  · exact .inl (by rw [hclosed])
  · exact .inr ⟨hrest, by rw [hclosed]⟩

theorem takeSpaced_passes (spaced inComment : Bool) (p : Char → Bool) (hp : p ')' = false)
    (text : List Char) :
    Passes text (takeSpaced spaced p inComment text)
      (takeSpaced spaced p inComment (text ++ closing)) := by
  induction text generalizing inComment with
  | nil =>
      refine ⟨List.suffix_rfl, ?_⟩
      cases inComment with
      | true => exact .inr ⟨rfl, rfl⟩
      | false => exact .inl (by simp [takeSpaced, closing, hp, isWhitespace_bracket])
  | cons c rest ih =>
      have hrest : ∀ b, Passes (c :: rest) (takeSpaced spaced p b rest)
          (takeSpaced spaced p b (rest ++ closing)) := fun b =>
        (ih b).mono (List.suffix_cons c rest)
      simp only [List.cons_append, takeSpaced]
      split_ifs with hinside hp hblank hmark
      · exact hrest _
      · exact (hrest false).map (c :: ·)
      · exact hrest _
      · exact hrest _
      · exact ⟨List.suffix_rfl, .inl rfl⟩

theorem Passes.bind {α β : Type} {text : List Char} {alone closed : α × List Char}
    {next : α → List Char → Option (β × List Char)} (h : Passes text alone closed)
    (hnext : ∀ x, Undisturbed (next x)) (hend : ∀ x, next x [] = none) :
    Agrees text (next alone.1 alone.2) (next closed.1 closed.2) := by
  rcases h.closed_eq with hclosed | ⟨hrest, hclosed⟩
  · rw [hclosed]
    exact (hnext _ _).mono h.suffix
  · rw [hclosed, hrest, hend]
    exact .fails

theorem skip_passes (spaced : Bool) (text : List Char) :
    Passes text ((), skip spaced text) ((), skip spaced (text ++ closing)) := by
  refine ⟨skip_suffix spaced text, ?_⟩
  rw [skip_closing]
  split
  · rename_i h
    exact .inr ⟨skip_of_endsInComment h, rfl⟩
  · exact .inl rfl

theorem Undisturbed.skipped {α : Type} {read : List Char → Option (α × List Char)}
    (hread : Undisturbed read) (hend : read [] = none) (spaced : Bool) :
    Undisturbed fun text => read (skip spaced text) := by
  intro text
  have hbind := (skip_passes spaced text).bind (fun _ => hread) fun _ => hend
  exact hbind

/-! ## Parts of the pattern text -/

theorem takeBraced_undisturbed (spaced inComment : Bool) :
    Undisturbed (takeBraced? spaced inComment) := by
  intro text
  induction text generalizing inComment with
  | nil =>
      have hclosing : takeBraced? spaced inComment closing = none := by
        cases inComment <;> simp [takeBraced?, closing, isWhitespace_bracket, isWhitespace_end]
      rw [List.nil_append, hclosing]
      exact .fails
  | cons c rest ih =>
      have hrest : ∀ b, Agrees (c :: rest) (takeBraced? spaced b rest)
          (takeBraced? spaced b (rest ++ closing)) := fun b =>
        (ih b).mono (List.suffix_cons c rest)
      simp only [List.cons_append, takeBraced?]
      split_ifs with hinside hbrace hblank hmark
      · exact hrest _
      · exact .leaves _ (List.suffix_cons c rest)
      · exact hrest _
      · exact hrest _
      · exact (hrest false).map (c :: ·)

theorem takeHex_undisturbed (spaced : Bool) (count : Nat) :
    Undisturbed (takeHex? spaced count) := by
  induction count with
  | zero => exact fun text => .leaves _ List.suffix_rfl
  | succ count ih =>
      intro text
      rcases skip_closing_cases spaced text with
        ⟨halone, hclosed | hclosed⟩ | ⟨c, rest, hsuffix, halone, hclosed⟩
      · simp only [takeHex?, halone, hclosed]
        exact .fails
      · simp only [takeHex?, halone, hclosed]
        exact .fails
      · simp only [takeHex?, halone, hclosed]
        split_ifs with hdigit
        · exact .fails
        · exact ((ih rest).mono ((List.suffix_cons c rest).trans hsuffix)).map (c :: ·)

theorem closeWordBoundary_undisturbed (name : List Char) :
    Undisturbed (closeWordBoundary? name) := by
  refine .byMark (show ')' ∉ ['}'] by decide) ?_ ?_ fun _ => .fails
  · intro left
    unfold closeWordBoundary?
    cases wordBoundary? name with
    | none => exact .fails
    | some kind => exact .leaves _ (List.suffix_cons '}' left)
  · intro text hother
    unfold closeWordBoundary?
    split
    · exact absurd rfl (hother _)
    · rfl

theorem readWordBoundary_undisturbed (spaced : Bool) : Undisturbed (readWordBoundary? spaced) := by
  have hunnamed : Undisturbed fun text => some (Element.assertion .wordBoundary, text) :=
    fun text => .leaves _ List.suffix_rfl
  refine .byMark (show ')' ∉ ['{'] by decide) ?_ ?_ hunnamed
  · intro rest
    rcases skip_closing_cases spaced rest with
      ⟨halone, hclosed | hclosed⟩ | ⟨c, inner, hsuffix, halone, hclosed⟩
    · simp only [readWordBoundary?, List.cons_append, List.nil_append, halone, hclosed]
      exact .leaves _ List.suffix_rfl
    · simp only [readWordBoundary?, List.cons_append, List.nil_append, halone, hclosed]
      exact .leaves _ List.suffix_rfl
    · simp only [readWordBoundary?, List.cons_append, List.nil_append, halone, hclosed]
      split
      · exact .leaves _ List.suffix_rfl
      · have hname := (takeSpaced_passes spaced false (fun c => c.isAlpha || c == '-') (by decide)
          (c :: inner)).bind closeWordBoundary_undisturbed fun _ => rfl
        exact hname.mono (hsuffix.trans (List.suffix_cons '{' rest))
  · intro text hother
    unfold readWordBoundary?
    split
    · exact absurd rfl (hother _)
    · rfl

theorem readHex_undisturbed (spaced : Bool) (digits : Nat) :
    Undisturbed (readHex? spaced digits) := by
  have hcode : ∀ (byte : Bool) (taken : List Char), Undisturbed fun rest =>
      (charOfHex? taken).bind fun c => some (Element.literal c byte, rest) :=
    fun byte taken => .ofOption (charOfHex? taken) (Element.literal · byte)
  have hbraced := (takeBraced_undisturbed spaced false).bind (hcode false)
  have hdigits := (takeHex_undisturbed spaced digits).bind (hcode (digits == 2))
  refine .byMark (show ')' ∉ ['{'] by decide) ?_ ?_ hdigits
  · exact fun rest => (hbraced rest).mono (List.suffix_cons '{' rest)
  · intro text hother
    unfold readHex?
    split
    · exact absurd rfl (hother _)
    · rfl

theorem readProperty_undisturbed (spaced negated : Bool) :
    Undisturbed (readProperty? spaced negated) := by
  refine .of_cons (by unfold readProperty?; rfl) fun c => ?_
  by_cases hslash : c = '\\'
  · subst hslash
    exact fun rest => .fails
  · by_cases hbrace : c = '{'
    · subst hbrace
      have hclass : ∀ name, Undisturbed fun rest =>
          (unicodeClass? name).bind fun found =>
            some (Element.set (.property found.1 (negated != found.2)), rest) :=
        fun name => .ofOption (unicodeClass? name) fun found =>
          Element.set (.property found.1 (negated != found.2))
      exact (takeBraced_undisturbed spaced false).bind hclass
    · have hlone : (fun rest => readProperty? spaced negated (c :: rest)) = fun rest =>
          (loneName? [c]).bind fun members =>
            some (Element.set (.property members negated), rest) := by
        funext rest
        unfold readProperty?
        split
        · rename_i hnil
          cases hnil
        · rename_i hcons
          exact absurd (List.cons.inj hcons).1 hslash
        · rename_i hcons
          exact absurd (List.cons.inj hcons).1 hbrace
        · rename_i hcons
          obtain ⟨rfl, rfl⟩ := List.cons.inj hcons
          exact Option.map_eq_bind
      rw [hlone]
      exact .ofOption (loneName? [c]) fun members => Element.set (.property members negated)

theorem readEscape_undisturbed (spaced : Bool) : Undisturbed (readEscape? spaced) := by
  refine .of_cons rfl fun c rest => ?_
  have hhex : ∀ digits, Undisturbed fun rest => readHex? spaced (digits + 1) (skip spaced rest) :=
    fun digits => (readHex_undisturbed spaced (digits + 1)).skipped (by cases spaced <;> rfl) spaced
  have hproperty : ∀ negated, Undisturbed fun rest =>
      readProperty? spaced negated (skip spaced rest) := fun negated =>
    (readProperty_undisturbed spaced negated).skipped (by unfold readProperty?; rfl) spaced
  simp only [readEscape?]
  split
  case h_1 => exact hhex 1 rest
  case h_2 => exact hhex 3 rest
  case h_3 => exact hhex 7 rest
  case h_4 => exact hproperty false rest
  case h_5 => exact hproperty true rest
  case h_20 => exact readWordBoundary_undisturbed spaced rest
  case h_24 =>
    split
    · exact .leaves _ List.suffix_rfl
    · exact .fails
  all_goals exact .leaves _ List.suffix_rfl

end Provision.Regex
