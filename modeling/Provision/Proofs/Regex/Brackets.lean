import Mathlib.Data.List.TakeDrop
import Mathlib.Data.List.TakeWhile
import Provision.Proofs.Regex.Closing

/-! # Bracketed classes, and what stands behind a source

A class that is not closed is not read at all, so that the closing never becomes part of one. -/

namespace Provision.Regex

open Unicode

/-! ## Readers that keep to a source -/

section

variable {α : Type} {text : List Char} {alone closed : Option (α × List Char)}

/-- What is read of a text alone, and with the closing behind it, by a reader that never goes on
into the closing. -/
def Keeps (text : List Char) (alone closed : Option (α × List Char)) : Prop :=
  (alone = none ∧ closed = none) ∨
  ∃ x left, left <:+ text ∧ alone = some (x, left) ∧ closed = some (x, left ++ closing)

namespace Keeps

theorem fails : Keeps text (none : Option (α × List Char)) none := .inl ⟨rfl, rfl⟩

theorem leaves (x : α) {left : List Char} (h : left <:+ text) :
    Keeps text (some (x, left)) (some (x, left ++ closing)) := .inr ⟨x, left, h, rfl, rfl⟩

theorem mono {longer : List Char} (h : Keeps text alone closed) (hlonger : text <:+ longer) :
    Keeps longer alone closed :=
  h.imp_right fun ⟨x, left, hsuffix, hread⟩ => ⟨x, left, hsuffix.trans hlonger, hread⟩

end Keeps

end

/-! ## Names -/

theorem span_of_notMem {mark : Char} {text : List Char} (h : mark ∉ text) :
    text.span (· != mark) = (text, []) := by
  have hall : ∀ c ∈ text, (c != mark) = true := fun c hc =>
    bne_iff_ne.mpr fun hmark => h (hmark ▸ hc)
  rw [List.span_eq_takeWhile_dropWhile, List.takeWhile_eq_self_iff.mpr hall,
    List.dropWhile_eq_nil_iff.mpr hall]

theorem span_of_mem {mark : Char} {name : List Char} (hname : mark ∉ name) (left : List Char) :
    (name ++ mark :: left).span (· != mark) = (name, mark :: left) := by
  have hall : ∀ c ∈ name, (c != mark) = true := fun c hc =>
    bne_iff_ne.mpr fun hmark => hname (hmark ▸ hc)
  rw [List.span_eq_takeWhile_dropWhile, List.takeWhile_append_of_pos hall,
    List.dropWhile_append_of_pos hall]
  simp

/-- What stands before a mark is the same with the closing behind the text, or there is no mark. -/
theorem span_closing_cases {mark : Char} (hmark : mark ∉ closing) (text : List Char) :
    (text.span (· != mark) = (text, []) ∧
      (text ++ closing).span (· != mark) = (text ++ closing, [])) ∨
    ∃ name left, mark :: left <:+ text ∧ text.span (· != mark) = (name, mark :: left) ∧
      (text ++ closing).span (· != mark) = (name, mark :: (left ++ closing)) := by
  by_cases hin : mark ∈ text
  · obtain ⟨name, left, rfl, hname⟩ := List.eq_append_cons_of_mem hin
    refine .inr ⟨name, left, List.suffix_append name _, span_of_mem hname left, ?_⟩
    rw [List.append_assoc]
    exact span_of_mem hname (left ++ closing)
  · exact .inl ⟨span_of_notMem hin, span_of_notMem (by simp [hin, hmark])⟩

theorem readName_undisturbed : Undisturbed readName? := by
  intro text
  rcases span_closing_cases (show '>' ∉ closing by decide) text with
    ⟨halone, hclosed⟩ | ⟨name, left, hsuffix, halone, hclosed⟩
  · simp only [readName?, halone, hclosed]
    exact .fails
  · simp only [readName?, halone, hclosed]
    split
    · exact .leaves _ ((List.suffix_cons '>' left).trans hsuffix)
    · exact .fails

/-! ## Brackets -/

theorem readAsciiName_keeps (negated : Bool) (text : List Char) :
    Keeps text (readAsciiName? negated text) (readAsciiName? negated (text ++ closing)) := by
  rcases span_closing_cases (show ':' ∉ closing by decide) text with
    ⟨halone, hclosed⟩ | ⟨name, left, hsuffix, halone, hclosed⟩
  · simp only [readAsciiName?, halone, hclosed]
    exact .fails
  · cases left with
    | nil =>
        simp only [readAsciiName?, halone, hclosed]
        exact .fails
    | cons c left =>
        by_cases hc : c = ']'
        · subst hc
          simp only [readAsciiName?, halone, hclosed, List.cons_append]
          cases asciiClass? name with
          | none => exact .fails
          | some members =>
              have hleft := (List.suffix_cons ']' left).trans (List.suffix_cons ':' _)
              exact .leaves _ (hleft.trans hsuffix)
        · have hname : ∀ text left, text.span (· != ':') = (name, ':' :: c :: left) →
              readAsciiName? negated text = none := by
            intro text left h
            rw [readAsciiName?, h]
            simp [hc]
          rw [hname _ _ halone, hname _ _ hclosed]
          exact .fails

theorem readAscii_keeps (text : List Char) :
    Keeps text (readAscii? text) (readAscii? (text ++ closing)) := by
  have hplain : ∀ rest, (∀ more, [':'] ++ rest ≠ [':', '^'] ++ more) →
      readAscii? ([':'] ++ rest) = readAsciiName? false rest := by
    intro rest hnegated
    cases rest with
    | nil => rfl
    | cons c rest =>
        have hc : c ≠ '^' := fun h => hnegated rest (by rw [h]; rfl)
        simp [readAscii?, hc]
  have hother : ∀ text, (∀ rest, text ≠ [':'] ++ rest) → readAscii? text = none := by
    intro text hplain
    unfold readAscii?
    split
    · exact absurd rfl (hplain _)
    · exact absurd rfl (hplain _)
    · rfl
  rcases mark_closing_cases (show ')' ∉ [':', '^'] by decide) text with
    ⟨rest, rfl⟩ | ⟨hnegated, hnegatedClosed⟩
  · exact (readAsciiName_keeps true rest).mono (List.suffix_append _ rest)
  · rcases mark_closing_cases (show ')' ∉ [':'] by decide) text with
      ⟨rest, rfl⟩ | ⟨hcolon, hcolonClosed⟩
    · rw [List.append_assoc] at hnegatedClosed ⊢
      rw [hplain _ hnegated, hplain _ hnegatedClosed]
      exact (readAsciiName_keeps false rest).mono (List.suffix_append _ rest)
    · rw [hother _ hcolon, hother _ hcolonClosed]
      exact .fails

theorem readOperator_keeps (c : Char) (rest : List Char) :
    Keeps rest (readOperator? (c :: rest)) (readOperator? (c :: (rest ++ closing))) := by
  cases rest with
  | nil =>
      have hclosed : readOperator? (c :: closing) = none := by
        simp only [closing, readOperator?]
        split
        · rename_i h
          rw [h]
          rfl
        · rfl
      rw [List.nil_append, hclosed]
      exact .fails
  | cons d rest =>
      simp only [List.cons_append, readOperator?]
      split
      · cases ClassOp.ofChar? c with
        | none => exact .fails
        | some op => exact .leaves op (List.suffix_cons d rest)
      · exact .fails

theorem readElement_undisturbed (spaced : Bool) (c : Char) :
    Undisturbed fun rest => readElement? spaced (c :: rest) := by
  by_cases hescape : c = '\\'
  · subst hescape
    exact readEscape_undisturbed spaced
  · have hliteral : ∀ rest, readElement? spaced (c :: rest) = some (.literal c false, rest) := by
      intro rest
      simp [readElement?]
    intro rest
    simp only [hliteral]
    exact .leaves _ List.suffix_rfl

theorem dropWhile_closing (text : List Char) :
    (text ++ closing).dropWhile isWhitespace = text.dropWhile isWhitespace ++ closing := by
  induction text with
  | nil => simp [closing, isWhitespace_bracket]
  | cons c rest ih =>
      simp only [List.cons_append, List.dropWhile_cons]
      split
      · exact ih
      · rfl

/-- Whether a hyphen is judged by a mark is the same as without the closing. -/
theorem peek_closing (spaced : Bool) {mark : Char} (hmark : mark ∉ closing)
    (hblank : isWhitespace mark = false) (hcomment : mark ≠ '#') (text : List Char) :
    (peek spaced (text ++ closing) == some mark) = (peek spaced text == some mark) := by
  have hbracket : ')' ≠ mark := fun h => hmark (h ▸ List.mem_cons_self)
  cases spaced with
  | false => cases text <;> simp [peek, closing, hbracket]
  | true =>
      have hseen : text.head? = some mark → text.dropWhile isWhitespace = text := by
        intro h
        cases text with
        | nil => rfl
        | cons c rest =>
            obtain rfl := Option.some.inj h
            simp [hblank]
      unfold peek
      rw [dropWhile_closing]
      cases hdrop : text.dropWhile isWhitespace with
      | nil =>
          have hhead : text.head? ≠ some mark := by
            intro h
            rw [← hseen h, hdrop] at h
            simp at h
          simp [closing, hbracket, hhead]
      | cons c rest =>
          by_cases hc : c = '#'
          · subst hc
            have hhead : text.head? ≠ some mark := by
              intro h
              rw [← hseen h, hdrop] at h
              exact hcomment (Option.some.inj h).symm
            have hclosing : closing.find? (fun c => !isWhitespace c) = some ')' := by
              simp [closing, isWhitespace_bracket]
            cases hfind : rest.find? (fun c => !isWhitespace c) <;>
              simp [List.find?_append, hfind, hclosing, hbracket, hhead]
          · simp [hc]

theorem readRangeEnd_undisturbed (spaced : Bool) (first : Element) :
    Undisturbed (readRangeEnd? spaced first) := by
  intro text
  have hend : Agrees text (first.item?.map (·, text)) (first.item?.map (·, text ++ closing)) := by
    cases first.item? with
    | none => exact .fails
    | some cls => exact .leaves cls List.suffix_rfl
  rcases skip_closing_cases spaced text with
    ⟨halone, hclosed | hclosed⟩ | ⟨c, rest, hsuffix, halone, hclosed⟩
  · simp only [readRangeEnd?, halone, hclosed]
    exact hend
  · simp only [readRangeEnd?, halone, hclosed]
    exact hend
  · by_cases hhyphen : c = '-'
    · subst hhyphen
      have hrest := (List.suffix_cons '-' rest).trans hsuffix
      have hlast : Undisturbed fun text => readElement? spaced (skip spaced text) :=
        Undisturbed.skipped (.of_cons rfl (readElement_undisturbed spaced)) rfl spaced
      simp only [readRangeEnd?, halone, hclosed,
        peek_closing spaced (show ']' ∉ closing by decide) (by decide +kernel) (by decide),
        peek_closing spaced (show '-' ∉ closing by decide) (by decide +kernel) (by decide)]
      split
      · cases first.item? with
        | none => exact .fails
        | some cls => exact .leaves cls hsuffix
      · exact ((hlast rest).bind fun last => .ofOption (first.rangeTo? last) id).mono hrest
    · have hother : ∀ text rest, skip spaced text = c :: rest →
          readRangeEnd? spaced first text = first.item?.map (·, text) := by
        intro text rest h
        simp [readRangeEnd?, h, hhyphen]
      rw [hother _ _ halone, hother _ _ hclosed]
      exact hend

theorem readRange_undisturbed (spaced : Bool) (c : Char) :
    Undisturbed fun rest => readRange? spaced (c :: rest) :=
  (readElement_undisturbed spaced c).bind (readRangeEnd_undisturbed spaced)

theorem openItems_passes {text : List Char} {alone closed : List Char × List Char}
    (h : Passes text alone closed) (negated : Bool) :
    Passes text (openItems negated alone) (openItems negated closed) := by
  obtain ⟨hyphens, left⟩ := alone
  have hplain : ∀ left, (hyphens = [] → ∀ rest, left ≠ [']'] ++ rest) →
      openItems negated (hyphens, left) = ((negated, hyphens.map .single), left) := by
    intro left hbracket
    unfold openItems
    split
    · rename_i rest heq
      obtain ⟨hyphens, hleft⟩ := Prod.mk.inj heq
      exact absurd hleft (hbracket hyphens rest)
    · rename_i heq
      obtain ⟨rfl, rfl⟩ := Prod.mk.inj heq
      rfl
  by_cases hbracket : hyphens = [] ∧ ∃ rest, left = [']'] ++ rest
  · obtain ⟨rfl, rest, rfl⟩ := hbracket
    refine ⟨(List.suffix_cons ']' rest).trans h.suffix, .inl ?_⟩
    rcases h.closed_eq with hclosed | ⟨hrest, -⟩
    · rw [hclosed]
      rfl
    · exact absurd hrest (List.cons_ne_nil _ _)
  · have halone : hyphens = [] → ∀ rest, left ≠ [']'] ++ rest := fun hnone rest hleft =>
      hbracket ⟨hnone, rest, hleft⟩
    have hfurther : hyphens = [] → ∀ rest, left ++ closing ≠ [']'] ++ rest := by
      intro hnone
      rcases mark_closing_cases (show ')' ∉ [']'] by decide) left with hbegins | ⟨-, hclosed⟩
      · exact absurd ⟨hnone, hbegins⟩ hbracket
      · exact hclosed
    rw [hplain left halone]
    refine ⟨h.suffix, ?_⟩
    rcases h.closed_eq with hclosed | ⟨hrest, hclosed⟩
    · rw [hclosed]
      exact .inl (hplain _ hfurther)
    · rw [hclosed]
      exact .inr ⟨hrest, hplain [] fun _ _ => List.cons_ne_nil _ _ ∘ Eq.symm⟩

theorem openBracket_passes (spaced : Bool) (text : List Char) :
    Passes text (openBracket spaced text) (openBracket spaced (text ++ closing)) := by
  have hhyphens := takeSpaced_passes spaced false (· == '-') (by decide)
  rcases skip_closing_cases spaced text with
    ⟨halone, hclosed | hclosed⟩ | ⟨c, rest, hsuffix, halone, hclosed⟩
  · simp only [openBracket, halone, hclosed]
    exact ⟨List.nil_suffix, .inr ⟨rfl, rfl⟩⟩
  · simp only [openBracket, halone, hclosed]
    exact (openItems_passes (hhyphens []) false).mono List.nil_suffix
  · by_cases hcaret : c = '^'
    · subst hcaret
      simp only [openBracket, halone, hclosed]
      exact (openItems_passes (hhyphens rest) true).mono ((List.suffix_cons '^' rest).trans hsuffix)
    · have hother : ∀ text rest, skip spaced text = c :: rest → openBracket spaced text =
          openItems false (takeSpaced spaced (· == '-') false (c :: rest)) := by
        intro text rest h
        simp [openBracket, h, hcaret]
      rw [hother _ _ halone, hother _ _ hclosed]
      exact (openItems_passes (hhyphens (c :: rest)) false).mono hsuffix

section

variable {spaced : Bool}
  {read : Pending → List CharClass → List Char → Option (CharClass × List Char)}
  {pending : Pending} {items : List CharClass}

theorem readItem_ascii {rest left : List Char} {cls : CharClass}
    (h : readAscii? rest = some (cls, left)) :
    readItem? spaced read pending items ('[' :: rest) = read pending (cls :: items) left := by
  simp only [readItem?, h]

theorem readItem_bracket {rest : List Char} (h : readAscii? rest = none) :
    readItem? spaced read pending items ('[' :: rest) =
      (read none (openBracket spaced rest).1.2.reverse (openBracket spaced rest).2).bind
        fun found => read pending (.bracket found.1 (openBracket spaced rest).1.1 :: items)
          found.2 := by
  simp only [readItem?, h]
  rfl

theorem readItem_operator {c : Char} (hclose : c ≠ ']') (hopen : c ≠ '[') {rest left : List Char}
    {op : ClassOp} (h : readOperator? (c :: rest) = some (op, left)) :
    readItem? spaced read pending items (c :: rest) =
      read (some (op, pending.join items)) [] left := by
  simp [readItem?, hclose, hopen, h]

theorem readItem_range {c : Char} (hclose : c ≠ ']') (hopen : c ≠ '[') {rest : List Char}
    (h : readOperator? (c :: rest) = none) :
    readItem? spaced read pending items (c :: rest) =
      (readRange? spaced (c :: rest)).bind
        fun found => read pending (found.1 :: items) found.2 := by
  simp [readItem?, hclose, hopen, h]

theorem readItem_undisturbed (hread : ∀ pending items, Undisturbed (read pending items))
    (hend : ∀ pending items, read pending items [] = none) :
    Undisturbed (readItem? spaced read pending items) := by
  refine .of_cons rfl fun c rest => ?_
  by_cases hclose : c = ']'
  · subst hclose
    exact .leaves _ List.suffix_rfl
  · by_cases hopen : c = '['
    · subst hopen
      have hbody : ∀ (negated : Bool) (body : CharClass),
          Undisturbed (read pending (.bracket body negated :: items)) :=
        fun negated body => hread pending _
      have hbracket : ∀ opened : Bool × List CharClass, Undisturbed fun rest =>
          (read none opened.2.reverse rest).bind fun found =>
            read pending (.bracket found.1 opened.1 :: items) found.2 :=
        fun opened => (hread none opened.2.reverse).bind (hbody opened.1)
      rcases readAscii_keeps rest with
        ⟨halone, hclosed⟩ | ⟨cls, left, hsuffix, halone, hclosed⟩
      · dsimp only
        rw [readItem_bracket halone, readItem_bracket hclosed]
        refine (openBracket_passes spaced rest).bind hbracket fun opened => ?_
        simp only [hend, Option.bind_none]
      · dsimp only
        rw [readItem_ascii halone, readItem_ascii hclosed]
        exact (hread _ _ _).mono hsuffix
    · rcases readOperator_keeps c rest with
        ⟨halone, hclosed⟩ | ⟨op, left, hsuffix, halone, hclosed⟩
      · have hrange := (readRange_undisturbed spaced c).bind
          fun item => hread pending (item :: items)
        dsimp only
        rw [readItem_range hclose hopen halone, readItem_range hclose hopen hclosed]
        exact hrange rest
      · dsimp only
        rw [readItem_operator hclose hopen halone, readItem_operator hclose hopen hclosed]
        exact (hread _ _ _).mono hsuffix

theorem readItem_congr
    {further : Pending → List CharClass → List Char → Option (CharClass × List Char)}
    {text : List Char}
    (h : ∀ pending items left, left.length < text.length →
      read pending items left = further pending items left)
    (hread : ∀ pending items, Undisturbed (read pending items)) :
    readItem? spaced read pending items text = readItem? spaced further pending items text := by
  have hshorter : ∀ {c : Char} {rest left : List Char}, left <:+ rest → c :: rest = text →
      left.length < text.length := by
    intro c rest left hsuffix htext
    have hlength := hsuffix.length_le
    simp [← htext]
    omega
  cases text with
  | nil => rfl
  | cons c rest =>
      by_cases hclose : c = ']'
      · subst hclose
        rfl
      · by_cases hopen : c = '['
        · subst hopen
          rcases readAscii_keeps rest with ⟨halone, -⟩ | ⟨cls, left, hsuffix, halone, -⟩
          · have hrest := (openBracket_passes spaced rest).suffix
            rw [readItem_bracket halone, readItem_bracket halone, ← h _ _ _ (hshorter hrest rfl)]
            refine Option.bind_congr fun found hfound => ?_
            exact h _ _ _ (hshorter (((hread _ _ _).suffix hfound).trans hrest) rfl)
          · rw [readItem_ascii halone, readItem_ascii halone]
            exact h _ _ _ (hshorter hsuffix rfl)
        · rcases readOperator_keeps c rest with ⟨halone, -⟩ | ⟨op, left, hsuffix, halone, -⟩
          · rw [readItem_range hclose hopen halone, readItem_range hclose hopen halone]
            refine Option.bind_congr fun found hfound => ?_
            exact h _ _ _ (hshorter ((readRange_undisturbed spaced c rest).suffix hfound) rfl)
          · rw [readItem_operator hclose hopen halone, readItem_operator hclose hopen halone]
            exact h _ _ _ (hshorter hsuffix rfl)

end

theorem readItems_nil (spaced : Bool) (fuel : Nat) (pending : Pending) (items : List CharClass) :
    readItems? spaced fuel pending items [] = none := by
  cases fuel with
  | zero => rfl
  | succ fuel => cases spaced <;> rfl

theorem readItems_undisturbed (spaced : Bool) (fuel : Nat) (pending : Pending)
    (items : List CharClass) : Undisturbed (readItems? spaced fuel pending items) := by
  induction fuel generalizing pending items with
  | zero => exact fun _ => .fails
  | succ fuel ih =>
      exact (readItem_undisturbed ih (readItems_nil spaced fuel)).skipped rfl spaced

theorem readItems_fuel (spaced : Bool) {fuel more : Nat} {text : List Char}
    (hfuel : text.length ≤ fuel) (hmore : text.length ≤ more) (pending : Pending)
    (items : List CharClass) :
    readItems? spaced fuel pending items text = readItems? spaced more pending items text := by
  induction fuel generalizing more text pending items with
  | zero =>
      obtain rfl := List.eq_nil_of_length_eq_zero (Nat.le_zero.mp hfuel)
      rw [readItems_nil, readItems_nil]
  | succ fuel ih =>
      cases more with
      | zero =>
          obtain rfl := List.eq_nil_of_length_eq_zero (Nat.le_zero.mp hmore)
          rw [readItems_nil, readItems_nil]
      | succ more =>
          have hskip := (skip_suffix spaced text).length_le
          refine readItem_congr ?_ (readItems_undisturbed spaced fuel)
          intro pending items left hleft
          exact ih (by omega) (by omega) pending items

theorem readBracket_undisturbed (spaced : Bool) : Undisturbed (readBracket? spaced) := by
  intro text
  have heq : ∀ text fuel, text.length ≤ fuel → readBracket? spaced text =
      (readItems? spaced fuel none (openBracket spaced text).1.2.reverse
        (openBracket spaced text).2).bind
        fun found => some (CharClass.bracket found.1 (openBracket spaced text).1.1, found.2) := by
    intro text fuel hfuel
    have hrest := (openBracket_passes spaced text).suffix.length_le
    rw [← readItems_fuel spaced hrest (hrest.trans hfuel)]
    rfl
  have hitems : ∀ opened : Bool × List CharClass, Undisturbed fun rest =>
      (readItems? spaced (text ++ closing).length none opened.2.reverse rest).bind
        fun found => some (CharClass.bracket found.1 opened.1, found.2) :=
    fun opened => (readItems_undisturbed spaced _ none opened.2.reverse).bind
      fun body => .ofOption (some body) (CharClass.bracket · opened.1)
  have hlonger : text.length ≤ (text ++ closing).length := by simp
  rw [heq text _ hlonger, heq _ _ le_rfl]
  refine (openBracket_passes spaced text).bind hitems fun opened => ?_
  simp only [readItems_nil, Option.bind_none]

end Provision.Regex
