import Provision.Proofs.WholeMatch

/-! # Words as regular expressions

A word with a backslash before each character that means something is read as its characters, one
after the other, and so it matches itself alone. -/

namespace Provision.Regex

/-! ## What a word matches -/

/-- The regular expression that matches the characters of a word one after the other. -/
def ofWord : List Char → Regex
  | [] => .empty
  | [c] => .chars (.single c)
  | c :: rest => .seq (.chars (.single c)) (ofWord rest)

section

variable {text word : List Char} {i j : Nat}

theorem cons_prefix_drop_iff (c : Char) :
    c :: word <+: text.drop i ↔ text[i]? = some c ∧ word <+: text.drop (i + 1) := by
  by_cases hi : i < text.length
  · rw [List.drop_eq_getElem_cons hi, List.cons_prefix_cons, List.getElem?_eq_getElem hi,
      Option.some.injEq, eq_comm]
  · simp [List.drop_eq_nil_of_le (Nat.not_lt.mp hi), hi]

theorem spans_single_iff (c : Char) :
    Spans text (.chars (.single c)) i j ↔ i + 1 = j ∧ text[i]? = some c := by
  simp [Spans, Unicode.Ranges.contains_single]

theorem spans_seq_single_iff (c : Char) (r : Regex) :
    Spans text (.seq (.chars (.single c)) r) i j ↔
      text[i]? = some c ∧ Spans text r (i + 1) j := by
  constructor
  · rintro ⟨k, hfirst, hrest⟩
    obtain ⟨rfl, hc⟩ := (spans_single_iff c).mp hfirst
    exact ⟨hc, hrest⟩
  · rintro ⟨hc, hrest⟩
    exact ⟨i + 1, (spans_single_iff c).mpr ⟨rfl, hc⟩, hrest⟩

theorem spans_ofWord_iff :
    Spans text (ofWord word) i j ↔ i + word.length = j ∧ word <+: text.drop i := by
  fun_induction ofWord word generalizing i with
  | case1 => simp [Spans]
  | case2 c =>
      rw [spans_single_iff, cons_prefix_drop_iff]
      simp
  | case3 c rest _ ih =>
      rw [spans_seq_single_iff, ih, cons_prefix_drop_iff, List.length_cons, Nat.add_assoc,
        Nat.add_comm 1, and_left_comm]

theorem matchesWhole_ofWord_iff : MatchesWhole (ofWord word) text ↔ text = word := by
  rw [MatchesWhole, spans_ofWord_iff, Nat.zero_add, List.drop_zero]
  constructor
  · rintro ⟨hlength, hstarts⟩
    exact (hstarts.eq_of_length hlength).symm
  · rintro rfl
    exact ⟨rfl, List.prefix_rfl⟩

end

/-! ## How a word is read -/

def escaped (c : Char) : List Char := if isMeta c then ['\\', c] else [c]

/-- The expressions that the characters of a word are read as. -/
def letters (word : List Char) : List Expr := word.map fun c => .literal c false

theorem readEscape_of_isMeta {c : Char} (h : isMeta c = true) (rest : List Char) :
    readEscape? false (c :: rest) = some (.literal c false, rest) := by
  have hmem : c ∈ ['\\', '.', '+', '*', '?', '(', ')', '|', '[', ']', '\x7b', '\x7d', '^', '$', '#',
      '&', '-', '~'] := by
    simpa [isMeta] using h
  simp only [List.mem_cons, List.not_mem_nil, or_false] at hmem
  rcases hmem with rfl | rfl | rfl | rfl | rfl | rfl | rfl | rfl | rfl | rfl | rfl | rfl | rfl |
    rfl | rfl | rfl | rfl | rfl <;> rfl

theorem readToken_of_not_isMeta {c : Char} (h : isMeta c = false) (rest : List Char) :
    readToken? false (c :: rest) = some (.element (.literal c false), rest) := by
  simp only [readToken?]
  split
  case h_13 => rfl
  all_goals exact absurd h (by decide)

theorem readToken_escaped (c : Char) (rest : List Char) :
    readToken? false (escaped c ++ rest) = some (.element (.literal c false), rest) := by
  unfold escaped
  split
  · rename_i hmeta
    change (readEscape? false (c :: rest)).map _ = _
    rw [readEscape_of_isMeta hmeta]
    rfl
  · rename_i hplain
    exact readToken_of_not_isMeta (by simpa using hplain) rest

theorem advance_of_read {p q : Partial} {text rest : List Char} (token : Token)
    (hread : readToken? p.spaced (skip p.spaced text) = some (token, rest))
    (hpush : p.push? token = some q) : p.advance? text = some (q, rest) := by
  simp only [Partial.advance?, hread, hpush, Option.bind_eq_bind, Option.bind_some]

theorem advance_escaped {p : Partial} (hp : p.spaced = false) (c : Char) (rest : List Char) :
    p.advance? (escaped c ++ rest) =
      some ({ p with items := .literal c false :: p.items }, rest) := by
  refine advance_of_read (.element (.literal c false)) ?_ rfl
  rw [hp]
  exact readToken_escaped c rest

theorem advance_bar {p : Partial} (hp : p.spaced = false) (rest : List Char) :
    p.advance? ('|' :: rest) =
      some ({ p with branches := .sequence p.items.reverse :: p.branches, items := [] }, rest) := by
  refine advance_of_read .bar ?_ rfl
  rw [hp]
  rfl

/-- One character of the word is read for each bit of fuel. -/
theorem readAhead_escaped (fuel : Nat) (p : Partial) (hp : p.spaced = false)
    (word rest : List Char) :
    readAhead (word.length + fuel) p (word.flatMap escaped ++ rest) =
      readAhead fuel { p with items := (letters word).reverse ++ p.items } rest := by
  induction word generalizing p with
  | nil => simp [letters]
  | cons c word ih =>
      rw [List.length_cons, Nat.add_right_comm, List.flatMap_cons, List.append_assoc]
      simp only [readAhead, advance_escaped hp]
      refine (ih { p with items := .literal c false :: p.items } hp).trans ?_
      simp [letters]

theorem length_le_length_escaped (word : List Char) :
    word.length ≤ (word.flatMap escaped).length := by
  induction word with
  | nil => exact Nat.le_refl _
  | cons c word ih =>
      have hone : 1 ≤ (escaped c).length := by
        unfold escaped
        split <;> simp
      rw [List.flatMap_cons, List.length_append, List.length_cons]
      omega

theorem stop_word (word : List Char) :
    stop (word.flatMap escaped) = ({ items := (letters word).reverse }, []) := by
  obtain ⟨fuel, hfuel⟩ := Nat.exists_eq_add_of_le (length_le_length_escaped word)
  have hread := readAhead_escaped fuel {} rfl word []
  rw [List.append_nil, List.append_nil, readAhead_nil] at hread
  rw [stop, hfuel, hread]

theorem stop_words (first second : List Char) :
    stop (first.flatMap escaped ++ '|' :: second.flatMap escaped) =
      ({ branches := [.sequence (letters first)], items := (letters second).reverse }, []) := by
  have hlength : first.length + (second.length + 1) ≤
      (first.flatMap escaped ++ '|' :: second.flatMap escaped).length := by
    have hfirst := length_le_length_escaped first
    have hsecond := length_le_length_escaped second
    rw [List.length_append, List.length_cons]
    omega
  obtain ⟨fuel, hfuel⟩ := Nat.exists_eq_add_of_le hlength
  have hread := readAhead_escaped fuel { branches := [.sequence (letters first)] } rfl second []
  rw [List.append_nil, List.append_nil, readAhead_nil] at hread
  rw [stop, hfuel, Nat.add_assoc, readAhead_escaped _ {} rfl, Nat.add_right_comm, readAhead,
    advance_bar rfl]
  simpa using hread

/-! ## What a word means -/

theorem meaning_seq {first rest : Expr} {r s : Regex} {flags between after : Flags}
    (hfirst : first.meaning? flags = some (r, between))
    (hrest : rest.meaning? between = some (s, after)) :
    (Expr.seq first rest).meaning? flags = some (.seq r s, after) := by
  simp only [Expr.meaning?, hfirst, hrest, Option.bind_eq_bind, Option.bind_some]

theorem meaning_alt {first rest : Expr} {r s : Regex} {flags between after : Flags}
    (hfirst : first.meaning? flags = some (r, between))
    (hrest : rest.meaning? between = some (s, after)) :
    (Expr.alt first rest).meaning? flags = some (.alt r s, after) := by
  simp only [Expr.meaning?, hfirst, hrest, Option.bind_eq_bind, Option.bind_some]

theorem meaning_letters (word : List Char) :
    (Expr.sequence (letters word)).meaning? {} = some (ofWord word, {}) := by
  fun_induction ofWord word with
  | case1 => rfl
  | case2 c => rfl
  | case3 c rest hrest ih =>
      obtain ⟨d, rest, rfl⟩ := List.exists_cons_of_ne_nil hrest
      exact meaning_seq rfl ih

theorem depth_letters_le (word : List Char) : (Expr.sequence (letters word)).depth ≤ 1 := by
  fun_induction ofWord word with
  | case1 => exact Nat.zero_le 1
  | case2 c => exact Nat.zero_le 1
  | case3 c rest hrest ih =>
      obtain ⟨d, rest, rfl⟩ := List.exists_cons_of_ne_nil hrest
      cases rest with
      | nil => exact Nat.le_refl 1
      | cons e rest => exact Nat.max_le.mpr ⟨Nat.le_refl 1, ih⟩

theorem depth_alt_le (first rest : Expr) :
    (Expr.alt first rest).depth ≤ max first.depth rest.depth + 1 := by
  cases rest <;> simp only [Expr.depth] <;> omega

theorem leavesComment_of_stop {text rest : List Char} {p : Partial} (h : stop text = (p, rest))
    (hp : p.spaced = false) : leavesComment text = false := by
  rw [leavesComment, h, hp]
  rfl

theorem writes_word (word : List Char) :
    Writes (word.flatMap escaped) (.sequence (letters word)) (ofWord word) := by
  have hbody : (stop (word.flatMap escaped)).1.body = .sequence (letters word) := by
    simp [stop_word, Partial.body, Expr.alternation]
  refine ⟨?_, ?_, hbody, {}, meaning_letters word⟩
  · rw [stop_word]
    rfl
  · rw [stop_word]

theorem writes_words (first second : List Char) :
    Writes (first.flatMap escaped ++ '|' :: second.flatMap escaped)
      (.alt (.sequence (letters first)) (.sequence (letters second)))
      (.alt (ofWord first) (ofWord second)) := by
  have hbody : (stop (first.flatMap escaped ++ '|' :: second.flatMap escaped)).1.body =
      .alt (.sequence (letters first)) (.sequence (letters second)) := by
    simp [stop_words, Partial.body, Expr.alternation]
  refine ⟨?_, ?_, hbody, {}, meaning_alt (meaning_letters first) (meaning_letters second)⟩
  · rw [stop_words]
    rfl
  · rw [stop_words]

end Provision.Regex
