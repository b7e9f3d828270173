import Provision.Pattern
import Provision.Proofs.Regex.Enclosed
import Provision.Proofs.Regex.Spans

/-! # Patterns match whole inputs

What a source writes on its own decides, although it is read between brackets, with two exceptions:
a source that ends in a comment, and one that closes the bracket before it. -/

namespace Provision.Regex

/-! ## A source on its own -/

/-- Where reading a text on its own stops: what has been read, and what remains. -/
def stop (text : List Char) : Partial × List Char := readAhead text.length {} text

/-- Whether a text is a regular expression on its own: it is read to its end, it closes all its
groups, and what it writes has a meaning. There is no limit to how deeply it nests. -/
structure Writes (text : List Char) (e : Expr) (r : Regex) : Prop where
  ends : skip (stop text).1.spaced (stop text).2 = []
  closed : (stop text).1.outer = []
  body_eq : (stop text).1.body = e
  meaning : ∃ flags, e.meaning? {} = some (r, flags)

/-- Whether a text is read to its end and ends in a comment. -/
def leavesComment (text : List Char) : Bool :=
  (stop text).1.spaced && endsInComment false (stop text).2

/-- Whether a text comes to a closing bracket that it has not opened. -/
def closesAround (text : List Char) : Bool :=
  (stop text).1.outer.isEmpty && (skip (stop text).1.spaced (stop text).2).head? == some ')'

theorem readExpr_eq_some_iff (text : List Char) (e : Expr) :
    readExpr? text = some e ↔ skip (stop text).1.spaced (stop text).2 = [] ∧
      (stop text).1.outer = [] ∧ (stop text).1.body = e ∧ e.depth ≤ depthLimit := by
  have heq : readExpr? text =
      if (skip (stop text).1.spaced (stop text).2).isEmpty && (stop text).1.outer.isEmpty &&
        (stop text).1.body.depth ≤ depthLimit then some (stop text).1.body else none := rfl
  rw [heq]
  constructor
  · intro h
    obtain ⟨hall, hbody⟩ := Option.ite_none_right_eq_some.mp h
    simp only [Bool.and_eq_true, List.isEmpty_iff, decide_eq_true_eq] at hall
    obtain ⟨⟨hends, hclosed⟩, hdepth⟩ := hall
    obtain rfl := Option.some.inj hbody
    exact ⟨hends, hclosed, rfl, hdepth⟩
  · rintro ⟨hends, hclosed, rfl, hdepth⟩
    simp [hends, hclosed, hdepth]

theorem parse_eq_some_iff (text : List Char) (r : Regex) :
    parse? text = some r ↔ ∃ e, Writes text e r ∧ e.depth ≤ depthLimit := by
  constructor
  · intro h
    obtain ⟨e, hread, hmeant⟩ := Option.bind_eq_some_iff.mp h
    obtain ⟨⟨s, flags⟩, hmeaning, hr⟩ := Option.bind_eq_some_iff.mp hmeant
    obtain rfl := Option.some.inj hr
    obtain ⟨hends, hclosed, hbody, hdepth⟩ := (readExpr_eq_some_iff text e).mp hread
    exact ⟨e, ⟨hends, hclosed, hbody, flags, hmeaning⟩, hdepth⟩
  · rintro ⟨e, ⟨hends, hclosed, hbody, flags, hmeaning⟩, hdepth⟩
    have hread := (readExpr_eq_some_iff text e).mpr ⟨hends, hclosed, hbody, hdepth⟩
    simp only [parse?, hread, hmeaning, Option.bind_eq_bind, Option.bind_some]

/-! ## What is set around a source -/

def anchoredExpr (e : Expr) : Expr :=
  .seq (.assertion .startLine) (.seq (.group (.scoped []) e) (.assertion .endLine))

def anchoredRegex (r : Regex) : Regex :=
  .seq (.look (Flags.holds {} .startLine)) (.seq (.group false r) (.look (Flags.holds {} .endLine)))

theorem whole_body (p : Partial) : p.whole.body = anchoredExpr p.body := rfl

theorem anchoredExpr_depth (e : Expr) : (anchoredExpr e).depth = e.depth + 2 := by
  simp only [anchoredExpr, Expr.depth]
  omega

theorem anchoredExpr_meaning (e : Expr) :
    (anchoredExpr e).meaning? {} =
      (e.meaning? {}).map fun found => (anchoredRegex found.1, ({} : Flags)) := by
  have hflags : ({} : Flags).change (GroupKind.scoped []).change = {} := rfl
  cases h : e.meaning? {} with
  | none =>
      simp only [anchoredExpr, Expr.meaning?, Option.bind_eq_bind, Option.bind_some, hflags, h]
      rfl
  | some found =>
      simp only [anchoredExpr, Expr.meaning?, Option.bind_eq_bind, Option.bind_some, hflags, h]
      rfl

theorem startLine_holds_iff {text : List Char} {i : Nat} (hi : i ≤ text.length) :
    Flags.holds {} .startLine (before? text i) text[i]? = true ↔ i = 0 := by
  cases i with
  | zero => simp [Flags.holds, before?]
  | succ i =>
      have hlt : i < text.length := hi
      simp [Flags.holds, before?, hlt]

theorem endLine_holds_iff {text : List Char} {j : Nat} (hj : j ≤ text.length) :
    Flags.holds {} .endLine (before? text j) text[j]? = true ↔ j = text.length := by
  simp only [Flags.holds, Bool.false_and, Bool.or_false, beq_iff_eq, List.getElem?_eq_none_iff]
  omega

theorem matchesWithin_anchoredRegex (r : Regex) (text : List Char) :
    (anchoredRegex r).matchesWithin text = true ↔ r.MatchesWhole text := by
  rw [matchesWithin_iff]
  constructor
  · rintro ⟨i, j, hi, k, ⟨rfl, hi0⟩, l, hspans, rfl, hl⟩
    obtain rfl := (startLine_holds_iff hi).mp hi0
    have hplace := le_length_of_spans hspans hi
    obtain rfl := (endLine_holds_iff hplace).mp hl
    exact hspans
  · intro h
    refine ⟨0, text.length, Nat.zero_le _, 0, ⟨rfl, ?_⟩, text.length, h, rfl, ?_⟩
    · exact (startLine_holds_iff (Nat.zero_le _)).mpr rfl
    · exact (endLine_holds_iff le_rfl).mpr rfl

end Provision.Regex

namespace Provision.Pattern

open Regex

theorem anchored_eq (source : String) :
    anchored source = '^' :: '(' :: '?' :: ':' :: (source.toList ++ closing) := by
  -- the definition's own equation is slow to make, since it is compared with literals
  change "^(?:".toList ++ source.toList ++ ")$".toList = _
  simp [closing]

/-- Between its brackets a source is read as on its own, and then the closing behind what remains
of it. -/
theorem exists_stop_anchored (source : String) :
    ∃ fuel, stop (anchored source) = readAhead (fuel + 2) (stop source.toList).1.enclosed
      ((stop source.toList).2 ++ closing) := by
  have hlength : (anchored source).length = source.toList.length + 4 + 2 := by
    simp [anchored_eq, closing]
  have hopening : stop (anchored source) = readAhead (source.toList.length + 4)
      ({} : Partial).enclosed (source.toList ++ closing) := by
    unfold stop
    rw [hlength, anchored_eq]
    rfl
  obtain ⟨more, hmore⟩ := readAhead_enclosed source.toList.length 4 {} source.toList
  exact ⟨more + 2, hopening.trans hmore⟩

/-- Whether a text is read to its end, with all groups closed and no comment that goes on. -/
def Completes (text : List Char) : Prop :=
  (stop text).1.outer = [] ∧ skip (stop text).1.spaced (stop text).2 = [] ∧
    leavesComment text = false

theorem stop_anchored_of_completes {source : String} (h : Completes source.toList) :
    stop (anchored source) = ((stop source.toList).1.whole, []) := by
  obtain ⟨fuel, hstop⟩ := exists_stop_anchored source
  rw [hstop]
  exact readAhead_closing h

theorem stop_anchored_open {source : String} (h : ¬Completes source.toList)
    (hcloses : closesAround source.toList = false) : (stop (anchored source)).1.outer ≠ [] := by
  have hstuck : (stop source.toList).1.advance? (stop source.toList).2 = none :=
    readAhead_stops (Nat.le_refl source.toList.length)
  obtain ⟨fuel, hstop⟩ := exists_stop_anchored source
  rw [hstop]
  refine readAhead_closing_open hstuck h ?_
  rintro ⟨houter, left, hleft⟩
  simp [closesAround, houter, hleft] at hcloses

/-- Between its brackets a source writes what it writes on its own, unless it ends in a comment. -/
theorem writes_anchored_iff {source : String} (hcloses : closesAround source.toList = false)
    (e : Expr) (s : Regex) :
    Writes (anchored source) e s ↔ leavesComment source.toList = false ∧
      ∃ inner r, Writes source.toList inner r ∧ e = anchoredExpr inner ∧ s = anchoredRegex r := by
  by_cases hcompletes : Completes source.toList
  · have hstop := stop_anchored_of_completes hcompletes
    obtain ⟨hclosed, hends, hcomment⟩ := hcompletes
    constructor
    · rintro ⟨-, -, hbody, flags, hmeaning⟩
      rw [hstop] at hbody
      subst hbody
      rw [whole_body, anchoredExpr_meaning] at hmeaning
      obtain ⟨⟨r, flags⟩, hr, hs⟩ := Option.map_eq_some_iff.mp hmeaning
      obtain ⟨rfl, -⟩ := Prod.mk.inj hs
      exact ⟨hcomment, _, r, ⟨hends, hclosed, rfl, flags, hr⟩, rfl, rfl⟩
    · rintro ⟨-, inner, r, ⟨-, -, rfl, flags, hmeaning⟩, rfl, rfl⟩
      refine ⟨by rw [hstop]; exact skip_nil _, by rw [hstop]; rfl, by rw [hstop]; rfl, {}, ?_⟩
      rw [anchoredExpr_meaning, hmeaning]
      rfl
  · constructor
    · exact fun h => absurd h.closed (stop_anchored_open hcompletes hcloses)
    · rintro ⟨hcomment, inner, r, h, -⟩
      exact absurd ⟨h.closed, h.ends, hcomment⟩ hcompletes

/-- Whether an expression is within the limits for patterns, with what is set around it. -/
def WithinLimits (e : Expr) (r : Regex) : Prop :=
  e.depth + 2 ≤ depthLimit ∧ (anchoredRegex r).fits = true

theorem compile_eq_ok_iff_parse (source : String) (p : Pattern) :
    compile source = .ok p ↔
      ∃ s, parse? (anchored source) = some s ∧ s.fits = true ∧ p = ⟨source, .regex s⟩ := by
  unfold compile
  cases parse? (anchored source) with
  | none => simp
  | some s =>
      simp only [Option.some.injEq, exists_eq_left']
      split
      · rename_i hfits
        simp [hfits, eq_comm]
      · rename_i hfits
        simp [hfits]

theorem compile_eq_ok_iff {source : String} (hcloses : closesAround source.toList = false)
    (p : Pattern) :
    compile source = .ok p ↔ leavesComment source.toList = false ∧
      ∃ e r, Writes source.toList e r ∧ WithinLimits e r ∧
        p = ⟨source, .regex (anchoredRegex r)⟩ := by
  simp only [compile_eq_ok_iff_parse, parse_eq_some_iff, writes_anchored_iff hcloses]
  constructor
  · rintro ⟨s, ⟨e, ⟨hcomment, inner, r, hwrites, rfl, rfl⟩, hdepth⟩, hfits, rfl⟩
    rw [anchoredExpr_depth] at hdepth
    exact ⟨hcomment, inner, r, hwrites, ⟨hdepth, hfits⟩, rfl⟩
  · rintro ⟨hcomment, inner, r, hwrites, ⟨hdepth, hfits⟩, rfl⟩
    rw [← anchoredExpr_depth] at hdepth
    exact ⟨_, ⟨_, ⟨hcomment, inner, r, hwrites, rfl, rfl⟩, hdepth⟩, hfits, rfl⟩

theorem exists_of_toOption_any {source : String} {f : Pattern → Bool}
    (h : (compile source).toOption.any f = true) : ∃ p, compile source = .ok p ∧ f p = true := by
  cases hcompile : compile source with
  | error e =>
      rw [hcompile] at h
      cases h
  | ok p =>
      rw [hcompile] at h
      exact ⟨p, rfl, h⟩

/-! ## Sources that meddle with what is set around them -/

theorem closesAround_of_writes {text : List Char} {e : Expr} {r : Regex} (h : Writes text e r) :
    closesAround text = false := by
  simp [closesAround, h.ends]

/-- A source that ends in a comment is refused, whatever it writes: the comment goes on over the
bracket behind it. -/
theorem refused_of_leavesComment {source : String} (h : leavesComment source.toList = true)
    (p : Pattern) : compile source ≠ .ok p := by
  have hcloses : closesAround source.toList = false := by
    simp [closesAround, skip_of_endsInComment h]
  intro hp
  obtain ⟨hcomment, -⟩ := (compile_eq_ok_iff hcloses p).mp hp
  rw [h] at hcomment
  cases hcomment

/-- Both do happen: what is a regular expression is refused for its comment, and what is none is
accepted, and then matches parts of inputs. -/
theorem not_all_accepted_as_written :
    ((∃ e r, Writes "(?x)a#c".toList e r ∧ WithinLimits e r) ∧ ∀ p, compile "(?x)a#c" ≠ .ok p) ∧
    ∃ p, compile "a)|(?:b" = .ok p ∧ p.accepts "ax" = true ∧
      ¬∃ e r, Writes "a)|(?:b".toList e r := by
  refine ⟨⟨?_, fun p => refused_of_leavesComment (by decide +kernel) p⟩, ?_⟩
  · have hmeaning : ((stop "(?x)a#c".toList).1.body.meaning? {}).any
        (fun found => (anchoredRegex found.1).fits) = true := by decide +kernel
    obtain ⟨⟨r, flags⟩, hr, hfits⟩ := (Option.any_eq_true _ _).mp hmeaning
    have hclosed := List.isEmpty_iff.mp
      (show (stop "(?x)a#c".toList).1.outer.isEmpty = true by decide +kernel)
    exact ⟨_, r, ⟨by decide +kernel, hclosed, rfl, flags, hr⟩, by decide +kernel, hfits⟩
  · have haccepted : (compile "a)|(?:b").toOption.any (·.accepts "ax") = true := by
      decide +kernel
    obtain ⟨p, hp, haccepts⟩ := exists_of_toOption_any haccepted
    refine ⟨p, hp, haccepts, ?_⟩
    rintro ⟨e, r, hwrites⟩
    have hcloses : closesAround "a)|(?:b".toList = true := by decide +kernel
    rw [closesAround_of_writes hwrites] at hcloses
    cases hcloses

/-! ## All other sources -/

/-- Other sources are accepted if they are regular expressions within the limits, and what they are
decides: it matches an input from the first to the last character, or the pattern does not. -/
theorem accepts_iff_matchesWhole (source : String) (hcomment : leavesComment source.toList = false)
    (hcloses : closesAround source.toList = false) :
    ((∃ p, compile source = .ok p) ↔ ∃ e r, Writes source.toList e r ∧ WithinLimits e r) ∧
    ∀ p, compile source = .ok p → ∃ e r, Writes source.toList e r ∧
      ∀ input, p.accepts input = true ↔ r.MatchesWhole input.toList := by
  constructor
  · constructor
    · rintro ⟨p, hp⟩
      obtain ⟨-, e, r, hwrites, hlimits, -⟩ := (compile_eq_ok_iff hcloses p).mp hp
      exact ⟨e, r, hwrites, hlimits⟩
    · rintro ⟨e, r, hwrites, hlimits⟩
      exact ⟨_, (compile_eq_ok_iff hcloses _).mpr ⟨hcomment, e, r, hwrites, hlimits, rfl⟩⟩
  · intro p hp
    obtain ⟨-, e, r, hwrites, -, rfl⟩ := (compile_eq_ok_iff hcloses p).mp hp
    exact ⟨e, r, hwrites, fun input => matchesWithin_anchoredRegex r input.toList⟩

theorem optional_letter_matches_whole :
    (∃ e r, Writes "ab?".toList e r ∧ WithinLimits e r) ∧
    ∃ p e r, compile "ab?" = .ok p ∧ Writes "ab?".toList e r ∧
      r.MatchesWhole "a".toList ∧ ¬r.MatchesWhole "abx".toList := by
  have hinputs : (compile "ab?").toOption.any (fun p => p.accepts "a" && !p.accepts "abx") =
      true := by decide +kernel
  have hwhole := accepts_iff_matchesWhole "ab?" (by decide +kernel) (by decide +kernel)
  obtain ⟨p, hp, hinputs⟩ := exists_of_toOption_any hinputs
  obtain ⟨haccepts, hrefuses⟩ := Bool.and_eq_true_iff.mp hinputs
  obtain ⟨e, r, hwrites, hmatches⟩ := hwhole.2 p hp
  refine ⟨hwhole.1.mp ⟨p, hp⟩, p, e, r, hp, hwrites, (hmatches "a").mp haccepts, ?_⟩
  intro hpart
  rw [(hmatches "abx").mpr hpart] at hrefuses
  cases hrefuses

end Provision.Pattern
