import Provision.Proofs.Regex.Words

/-! # Patterns of words

A pattern of one word or of two compares inputs with the words. Its source is a regular expression
that comes to the same, so patterns with the same source match the same inputs, however they are
made. -/

namespace Provision.Pattern

open Regex

/-! ## Sources of words -/

theorem toList_escape (text : String) : (escape text).toList = text.toList.flatMap escaped := by
  simp only [escape, String.toList_ofList]
  rfl

/-- A source that is a regular expression on its own is read between its brackets as such. -/
theorem parse_anchored {source : String} {e : Expr} {r : Regex} (h : Writes source.toList e r)
    (hcomment : leavesComment source.toList = false) (hdepth : e.depth + 2 ≤ depthLimit) :
    parse? (anchored source) = some (anchoredRegex r) := by
  have hanchored : Writes (anchored source) (anchoredExpr e) (anchoredRegex r) :=
    (writes_anchored_iff (closesAround_of_writes h) _ _).mpr ⟨hcomment, e, r, h, rfl, rfl⟩
  exact (parse_eq_some_iff _ _).mpr ⟨_, hanchored, by rwa [anchoredExpr_depth]⟩

theorem parse_escape (text : String) :
    parse? (anchored (escape text)) = some (anchoredRegex (ofWord text.toList)) := by
  have hwrites := writes_word text.toList
  have hcomment := leavesComment_of_stop (stop_word text.toList) rfl
  have hdepth := depth_letters_le text.toList
  rw [← toList_escape] at hwrites hcomment
  exact parse_anchored hwrites hcomment (Nat.le_trans (Nat.add_le_add_right hdepth 2) (by decide))

theorem toList_bar (first second : String) :
    (escape first ++ "|" ++ escape second).toList =
      first.toList.flatMap escaped ++ '|' :: second.toList.flatMap escaped := by
  simp [toList_escape]

theorem parse_bar (first second : String) :
    parse? (anchored (escape first ++ "|" ++ escape second)) =
      some (anchoredRegex (.alt (ofWord first.toList) (ofWord second.toList))) := by
  have hwrites := writes_words first.toList second.toList
  have hcomment := leavesComment_of_stop (stop_words first.toList second.toList) rfl
  have hdepth := depth_alt_le (.sequence (letters first.toList)) (.sequence (letters second.toList))
  have hfirst := depth_letters_le first.toList
  have hsecond := depth_letters_le second.toList
  rw [← toList_bar] at hwrites hcomment
  refine parse_anchored hwrites hcomment ?_
  rw [depthLimit]
  omega

/-! ## Compiled words -/

/-- A regular expression that the source of a pattern of words is compiled to, unless it is too
large. It gives the same pattern, and matches the words and nothing else as the pattern does. -/
structure CompilesTo (p : Pattern) (words : List String) (r : Regex) : Prop where
  parsed : parse? (anchored p.source) = some r
  compiled : compile p.source = if r.fits then .ok ⟨p.source, .regex r⟩ else .error ⟨p.source⟩
  same : ((⟨p.source, .regex r⟩ : Pattern) == p) = true
  accepts_iff : ∀ input, p.accepts input = true ↔ input ∈ words
  accepts_eq : ∀ input, (⟨p.source, .regex r⟩ : Pattern).accepts input = p.accepts input

theorem compile_of_parse {source : String} {r : Regex} (h : parse? (anchored source) = some r) :
    compile source = if r.fits then .ok ⟨source, .regex r⟩ else .error ⟨source⟩ := by
  unfold compile
  rw [h]

theorem compilesTo_of_parse {p : Pattern} {words : List String} {r : Regex}
    (h : parse? (anchored p.source) = some (anchoredRegex r))
    (haccepts : ∀ input, p.accepts input = true ↔ input ∈ words)
    (hr : ∀ input : String, r.MatchesWhole input.toList ↔ input ∈ words) :
    p.CompilesTo words (anchoredRegex r) := by
  refine ⟨h, compile_of_parse h, beq_self_eq_true p.source, haccepts, fun input => ?_⟩
  rw [Bool.eq_iff_iff, haccepts, ← hr]
  exact matchesWithin_anchoredRegex r input.toList

theorem matchesWhole_ofWord_iff_eq (text input : String) :
    (ofWord text.toList).MatchesWhole input.toList ↔ input = text := by
  rw [matchesWhole_ofWord_iff, String.toList_inj]

theorem exists_literal_compilesTo (text : String) : ∃ r, (literal text).CompilesTo [text] r := by
  have haccepts (input : String) : (literal text).accepts input = true ↔ input ∈ [text] := by
    rw [accepts_literal, List.mem_singleton]
  refine ⟨_, compilesTo_of_parse (parse_escape text) haccepts fun input => ?_⟩
  rw [matchesWhole_ofWord_iff_eq, List.mem_singleton]

theorem exists_either_compilesTo (first second : String) :
    ∃ r, (either first second).CompilesTo [first, second] r := by
  have haccepts (input : String) :
      (either first second).accepts input = true ↔ input ∈ [first, second] := by
    rw [accepts_either, List.mem_cons, List.mem_singleton]
  by_cases same : first = second
  · rw [either_of_eq same] at haccepts ⊢
    refine ⟨_, compilesTo_of_parse (parse_escape first) haccepts fun input => ?_⟩
    rw [matchesWhole_ofWord_iff_eq, ← haccepts, accepts_literal]
  · rw [either_of_ne same] at haccepts ⊢
    refine ⟨_, compilesTo_of_parse (parse_bar first second) haccepts fun input => ?_⟩
    rw [List.mem_cons, List.mem_singleton, ← matchesWhole_ofWord_iff_eq,
      ← matchesWhole_ofWord_iff_eq]
    exact Iff.rfl

/-! ## Patterns with the same source -/

/-- The patterns that can be made. -/
inductive Built : Pattern → Prop
  | compiled {source : String} {p : Pattern} (h : compile source = .ok p) : Built p
  | literal (text : String) : Built (literal text)
  | either (first second : String) : Built (either first second)

theorem Built.exists_regex {p : Pattern} (hp : p.Built) :
    ∃ r, parse? (anchored p.source) = some r ∧
      ∀ input, p.accepts input = r.matchesWithin input.toList := by
  cases hp with
  | compiled h =>
      obtain ⟨r, hr, -, rfl⟩ := (compile_eq_ok_iff_parse _ _).mp h
      exact ⟨r, hr, fun _ => rfl⟩
  | literal text =>
      obtain ⟨r, h⟩ := exists_literal_compilesTo text
      exact ⟨r, h.parsed, fun input => (h.accepts_eq input).symm⟩
  | either first second =>
      obtain ⟨r, h⟩ := exists_either_compilesTo first second
      exact ⟨r, h.parsed, fun input => (h.accepts_eq input).symm⟩

theorem Built.accepts_congr {p q : Pattern} (hp : p.Built) (hq : q.Built) (h : (p == q) = true)
    (input : String) : p.accepts input = q.accepts input := by
  obtain ⟨r, hr, haccepts⟩ := hp.exists_regex
  obtain ⟨s, hs, haccepts'⟩ := hq.exists_regex
  have hsource : p.source = q.source := eq_of_beq h
  rw [hsource, hs] at hr
  obtain rfl := Option.some.inj hr
  rw [haccepts, haccepts']

/-- The source of a pattern of words compiles to the same pattern, which matches the same inputs:
the words and nothing else. So patterns that are equal match the same inputs, however they are
made. -/
theorem words_compile_alike :
    (∀ text, ∃ r, (literal text).CompilesTo [text] r) ∧
      (∀ first second, ∃ r, (either first second).CompilesTo [first, second] r) ∧
      ∀ p q : Pattern, p.Built → q.Built → (p == q) = true →
        ∀ input, p.accepts input = q.accepts input :=
  ⟨exists_literal_compilesTo, exists_either_compilesTo, fun _ _ hp hq h => hp.accepts_congr hq h⟩

/-- A bar in a word is written with a backslash. -/
theorem escaped_bar_is_one_word :
    (literal "a|b" == either "a" "b") = false ∧
      ∃ p, compile "a\\|b" = .ok p ∧ (p == literal "a|b") = true ∧
        ∀ input, p.accepts input = (literal "a|b").accepts input := by
  refine ⟨by decide, ?_⟩
  have hcompiles : (compile "a\\|b").toOption.any (· == literal "a|b") = true := by decide +kernel
  obtain ⟨p, hp, hsame⟩ := exists_of_toOption_any hcompiles
  exact ⟨p, hp, hsame,
    words_compile_alike.2.2 p (literal "a|b") (.compiled hp) (.literal "a|b") hsame⟩

end Provision.Pattern
