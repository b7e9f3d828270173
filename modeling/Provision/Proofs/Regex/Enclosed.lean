import Provision.Regex.Parser
import Provision.Proofs.Regex.Tokens

/-! # Reading a source between brackets that are not its own

The brackets are one more open group below all that the source opens. What the source alone is read
as is read there, too, unless it closes that group itself. -/

namespace Provision.Regex

/-! ## An open group below -/

/-- What lies around a source: the start of the text and a bracket that captures nothing. -/
def surrounding : Outer := ⟨.scoped [], [], [.assertion .startLine], false⟩

namespace Partial

variable {p q : Partial} {token : Token} {text left : List Char}

/-- What is read of a source, with the open group around it. -/
def enclosed (p : Partial) : Partial := { p with outer := p.outer ++ [surrounding] }

theorem enclosed_outer_ne_nil (p : Partial) : p.enclosed.outer ≠ [] :=
  List.append_ne_nil_of_right_ne_nil _ (List.cons_ne_nil _ _)

/-- The open group makes a difference only for a bracket that closes it. -/
theorem push_enclosed (h : token = .closeGroup → p.outer ≠ []) :
    p.enclosed.push? token = (p.push? token).map enclosed := by
  cases token with
  | element e => rfl
  | bar => rfl
  | directive change => rfl
  | repeats least most =>
      cases hitems : p.items with
      | nil => simp [push?, enclosed, hitems]
      | cons e items => cases e <;> simp [push?, enclosed, hitems]
  | openGroup kind =>
      by_cases hname : kind.name?.any (· ∈ p.names) = true
      · rw [show p.push? (.openGroup kind) = none from if_pos hname]
        exact if_pos hname
      · rw [show p.push? (.openGroup kind) = some _ from if_neg hname]
        exact if_neg hname
  | closeGroup =>
      cases houter : p.outer with
      | nil => exact absurd houter (h rfl)
      | cons around outer => simp [push?, enclosed, body, houter]

theorem push_outer_ne_nil (h : p.push? token = some q) (hopen : p.outer ≠ [])
    (htoken : token ≠ .closeGroup) : q.outer ≠ [] := by
  cases token with
  | element e =>
      obtain rfl := Option.some.inj h
      exact hopen
  | bar =>
      obtain rfl := Option.some.inj h
      exact hopen
  | directive change =>
      obtain rfl := Option.some.inj h
      exact hopen
  | repeats least most =>
      simp only [push?] at h
      split at h
      · cases h
      · cases h
      · obtain rfl := Option.some.inj h
        exact hopen
  | openGroup kind =>
      simp only [push?] at h
      split at h
      · cases h
      · obtain rfl := Option.some.inj h
        exact List.cons_ne_nil _ _
  | closeGroup => exact absurd rfl htoken

theorem push_closeGroup_fails (h : p.outer = []) : p.push? .closeGroup = none := by
  simp only [push?, h]

end Partial

/-! ## The closing bracket -/

theorem readName_ne_closeGroup {text left : List Char} {token : Token}
    (h : readName? text = some (token, left)) : token ≠ .closeGroup := by
  unfold readName? at h
  split at h
  · split at h
    · obtain ⟨rfl, -⟩ := Prod.mk.inj (Option.some.inj h)
      exact Token.noConfusion
    · cases h
  · cases h

theorem readKind_ne_closeGroup {text left : List Char} {token : Token}
    (h : readKind? text = some (token, left)) : token ≠ .closeGroup := by
  unfold readKind? at h
  split at h
  · exact readName_ne_closeGroup h
  · exact readName_ne_closeGroup h
  · obtain ⟨⟨⟨change, colon⟩, rest⟩, -, hkind⟩ := Option.bind_eq_some_iff.mp h
    dsimp only at hkind
    split at hkind
    · obtain ⟨rfl, -⟩ := Prod.mk.inj (Option.some.inj hkind)
      exact Token.noConfusion
    · split at hkind
      · cases hkind
      · obtain ⟨rfl, -⟩ := Prod.mk.inj (Option.some.inj hkind)
        exact Token.noConfusion

theorem readGroup_ne_closeGroup {spaced : Bool} {text left : List Char} {token : Token}
    (h : readGroup? spaced text = some (token, left)) : token ≠ .closeGroup := by
  unfold readGroup? at h
  split at h
  · exact readKind_ne_closeGroup h
  · obtain ⟨rfl, -⟩ := Prod.mk.inj (Option.some.inj h)
    exact Token.noConfusion

theorem closeCounts_ne_closeGroup {spaced : Bool} {least : Nat} {most : Option Nat}
    {text left : List Char} {token : Token}
    (h : closeCounts? spaced least most text = some (token, left)) : token ≠ .closeGroup := by
  unfold closeCounts? at h
  split at h
  · split at h
    · cases h
    · obtain ⟨rfl, -⟩ := Prod.mk.inj (Option.some.inj h)
      exact Token.noConfusion
  · cases h

theorem readCounts_ne_closeGroup {spaced : Bool} {text left : List Char} {token : Token}
    (h : readCounts? spaced text = some (token, left)) : token ≠ .closeGroup := by
  obtain ⟨⟨least, rest⟩, -, hbound⟩ := Option.bind_eq_some_iff.mp h
  dsimp only at hbound
  unfold readBound? at hbound
  split at hbound
  · unfold readMost? at hbound
    split at hbound
    · exact closeCounts_ne_closeGroup hbound
    · obtain ⟨⟨most, rest⟩, -, hclose⟩ := Option.bind_eq_some_iff.mp hbound
      exact closeCounts_ne_closeGroup hclose
  · exact closeCounts_ne_closeGroup hbound

theorem eq_cons_of_readToken_closeGroup {spaced : Bool} {text left : List Char}
    (h : readToken? spaced text = some (.closeGroup, left)) : text = ')' :: left := by
  cases text with
  | nil => cases h
  | cons c rest =>
      simp only [readToken?] at h
      split at h
      · exact absurd rfl (readGroup_ne_closeGroup h)
      · obtain ⟨-, rfl⟩ := Prod.mk.inj (Option.some.inj h)
        rfl
      · cases h
      · obtain ⟨found, -, hfound⟩ := Option.map_eq_some_iff.mp h
        cases (Prod.mk.inj hfound).1
      · cases h
      · cases h
      · cases h
      · exact absurd rfl (readCounts_ne_closeGroup h)
      · obtain ⟨found, -, hfound⟩ := Option.map_eq_some_iff.mp h
        cases (Prod.mk.inj hfound).1
      all_goals cases h

/-! ## Reading on -/

namespace Partial

variable {p q : Partial} {text left : List Char}

theorem advance_length_lt (h : p.advance? text = some (q, left)) : left.length < text.length := by
  have hskip := (skip_suffix p.spaced text).length_le
  obtain ⟨⟨token, rest⟩, htoken, hpush⟩ := Option.bind_eq_some_iff.mp h
  obtain ⟨r, -, hr⟩ := Option.bind_eq_some_iff.mp hpush
  obtain ⟨-, rfl⟩ := Prod.mk.inj (Option.some.inj hr)
  cases hbegins : skip p.spaced text with
  | nil =>
      rw [hbegins] at htoken
      cases htoken
  | cons c tail =>
      rw [hbegins] at htoken hskip
      have hlength := ((readToken_undisturbed p.spaced c tail).suffix htoken).length_le
      simp at hskip
      omega

end Partial

/-- With fuel for each character, reading stops only where no token can be added. -/
theorem readAhead_stops {fuel : Nat} {p : Partial} {text : List Char} (h : text.length ≤ fuel) :
    (readAhead fuel p text).1.advance? (readAhead fuel p text).2 = none := by
  induction fuel generalizing p text with
  | zero =>
      obtain rfl := List.eq_nil_of_length_eq_zero (Nat.le_zero.mp h)
      cases hadvance : p.advance? [] with
      | none => exact hadvance
      | some found => exact absurd (Partial.advance_length_lt hadvance) (Nat.not_lt_zero _)
  | succ fuel ih =>
      simp only [readAhead]
      cases hadvance : p.advance? text with
      | none => exact hadvance
      | some found =>
          have hlength := Partial.advance_length_lt hadvance
          exact ih (by omega)

theorem advance_enclosed {p q : Partial} {text left : List Char}
    (h : p.advance? text = some (q, left)) :
    p.enclosed.advance? (text ++ closing) = some (q.enclosed, left ++ closing) := by
  obtain ⟨⟨token, rest⟩, htoken, hpush⟩ := Option.bind_eq_some_iff.mp h
  obtain ⟨r, hr, hq⟩ := Option.bind_eq_some_iff.mp hpush
  obtain ⟨rfl, rfl⟩ := Prod.mk.inj (Option.some.inj hq)
  have hclosed : readToken? p.enclosed.spaced (skip p.enclosed.spaced (text ++ closing)) =
      some (token, rest ++ closing) := by
    rcases skip_closing_cases p.spaced text with
      ⟨halone, -⟩ | ⟨c, tail, -, halone, hskip⟩
    · rw [halone] at htoken
      cases htoken
    · rw [halone] at htoken
      rw [show p.enclosed.spaced = p.spaced from rfl, hskip]
      exact (readToken_undisturbed p.spaced c tail).onward htoken
  have henclosed : p.enclosed.push? token = some r.enclosed := by
    rw [Partial.push_enclosed, hr]
    · rfl
    · rintro rfl houter
      rw [Partial.push_closeGroup_fails houter] at hr
      cases hr
  simp only [Partial.advance?, hclosed, henclosed, Option.bind_eq_bind, Option.bind_some]

theorem readAhead_enclosed (fuel extra : Nat) (p : Partial) (text : List Char) :
    ∃ more, readAhead (fuel + extra) p.enclosed (text ++ closing) =
      readAhead (more + extra) (readAhead fuel p text).1.enclosed
        ((readAhead fuel p text).2 ++ closing) := by
  induction fuel generalizing p text with
  | zero => exact ⟨0, rfl⟩
  | succ fuel ih =>
      cases hadvance : p.advance? text with
      | none =>
          refine ⟨fuel + 1, ?_⟩
          simp only [readAhead, hadvance]
      | some found =>
          obtain ⟨more, hmore⟩ := ih found.1 found.2
          refine ⟨more, ?_⟩
          rw [Nat.add_right_comm]
          simp only [readAhead, hadvance, advance_enclosed hadvance]
          exact hmore

/-! ## The end of the source -/

theorem skip_nil (spaced : Bool) : skip spaced [] = [] := by cases spaced <;> rfl

theorem skip_end (spaced : Bool) : skip spaced ['$'] = ['$'] := by
  cases spaced with
  | false => rfl
  | true => simp [skip, skipBlanks, isWhitespace_end]

theorem advance_of_skip_nil {p : Partial} {text : List Char} (h : skip p.spaced text = []) :
    p.advance? text = none := by
  simp only [Partial.advance?, h]
  rfl

theorem advance_end (p : Partial) :
    p.advance? ['$'] = some ({ p with items := .assertion .endLine :: p.items }, []) := by
  simp only [Partial.advance?, skip_end]
  rfl

theorem readAhead_of_advance_none {fuel : Nat} {p : Partial} {text : List Char}
    (h : p.advance? text = none) : readAhead fuel p text = (p, text) := by
  cases fuel with
  | zero => rfl
  | succ fuel => simp only [readAhead, h]

theorem readAhead_nil (fuel : Nat) (p : Partial) : readAhead fuel p [] = (p, []) :=
  readAhead_of_advance_none (advance_of_skip_nil (skip_nil p.spaced))

/-- A group that is open behind the closing bracket remains so. -/
theorem readAhead_outer_ne_nil {fuel : Nat} {p : Partial} {rest : List Char} (hopen : p.outer ≠ [])
    (hrest : rest <:+ ['$']) : (readAhead fuel p rest).1.outer ≠ [] := by
  rcases List.suffix_cons_iff.mp hrest with rfl | hnil
  · cases fuel with
    | zero => exact hopen
    | succ fuel =>
        simp only [readAhead, advance_end, readAhead_nil]
        exact hopen
  · rw [List.suffix_nil.mp hnil, readAhead_nil]
    exact hopen

/-- What is read where the closing has closed the group around a source. -/
def Partial.whole (p : Partial) : Partial where
  items := [.assertion .endLine, .group (.scoped []) p.body, .assertion .startLine]
  names := p.names

/-- Whether nothing is missing where `rest` is left: all groups are closed, there is no more token,
and no comment goes on. -/
def Partial.Ends (p : Partial) (rest : List Char) : Prop :=
  p.outer = [] ∧ skip p.spaced rest = [] ∧ (p.spaced && endsInComment false rest) = false

/-- A source read to its end is closed by the bracket behind it. -/
theorem readAhead_closing {fuel : Nat} {p : Partial} {rest : List Char} (h : p.Ends rest) :
    readAhead (fuel + 2) p.enclosed (rest ++ closing) = (p.whole, []) := by
  obtain ⟨houter, hskip, hcomment⟩ := h
  have hclosing : skip p.enclosed.spaced (rest ++ closing) = closing := by
    rw [show p.enclosed.spaced = p.spaced from rfl, skip_closing, hcomment, hskip]
    rfl
  have hbracket : p.enclosed.advance? (rest ++ closing) = some
      ({ p.whole with items := [.group (.scoped []) p.body, .assertion .startLine] }, ['$']) := by
    simp only [Partial.advance?, hclosing]
    simp [readToken?, closing, Partial.push?, Partial.enclosed, houter, surrounding, Partial.body,
      Partial.whole]
  simp only [readAhead, hbracket, advance_end]
  exact readAhead_nil fuel _

/-- Where no token can be added to a source, one that is added with the closing behind it comes from
the closing, and leaves the group around the source open. -/
theorem advance_closing {p q : Partial} {rest left : List Char} (hstop : p.advance? rest = none)
    (hends : ¬p.Ends rest)
    (hcloses : ¬(p.outer = [] ∧ ∃ left, skip p.spaced rest = ')' :: left))
    (hadvance : p.enclosed.advance? (rest ++ closing) = some (q, left)) :
    q.outer ≠ [] ∧ left <:+ ['$'] := by
  obtain ⟨⟨token, tail⟩, htoken, hpush⟩ := Option.bind_eq_some_iff.mp hadvance
  obtain ⟨r, hr, hq⟩ := Option.bind_eq_some_iff.mp hpush
  obtain ⟨rfl, rfl⟩ := Prod.mk.inj (Option.some.inj hq)
  have henclosed : (token = .closeGroup → p.outer ≠ []) → ∃ s, p.push? token = some s ∧
      r = s.enclosed := by
    intro hopen
    rw [Partial.push_enclosed hopen] at hr
    obtain ⟨s, hs, rfl⟩ := Option.map_eq_some_iff.mp hr
    exact ⟨s, hs, rfl⟩
  rw [show p.enclosed.spaced = p.spaced from rfl] at htoken
  rcases skip_closing_cases p.spaced rest with
    ⟨halone, hclosed | hclosed⟩ | ⟨c, text, -, halone, hclosed⟩
  · rw [hclosed] at htoken
    cases htoken
  · rw [hclosed] at htoken
    obtain ⟨rfl, rfl⟩ := Prod.mk.inj (Option.some.inj htoken)
    have hcomment : (p.spaced && endsInComment false rest) = false := by
      cases h : p.spaced && endsInComment false rest with
      | false => rfl
      | true =>
          rw [skip_closing, h] at hclosed
          cases hclosed
    obtain ⟨s, -, rfl⟩ := henclosed fun _ houter => hends ⟨houter, halone, hcomment⟩
    exact ⟨s.enclosed_outer_ne_nil, List.suffix_rfl⟩
  · rw [hclosed] at htoken
    rcases (readToken_undisturbed p.spaced c text).back htoken with hleft | ⟨inner, rfl, hinner⟩
    · refine ⟨Partial.push_outer_ne_nil hr p.enclosed_outer_ne_nil ?_, hleft⟩
      rintro rfl
      have htail := (List.cons.inj (eq_cons_of_readToken_closeGroup htoken)).2
      have hlength := hleft.length_le
      simp [← htail, closing] at hlength
    · by_cases hcloser : token = .closeGroup ∧ p.outer = []
      · obtain ⟨rfl, houter⟩ := hcloser
        refine absurd ⟨houter, inner, ?_⟩ hcloses
        rw [halone]
        exact eq_cons_of_readToken_closeGroup hinner
      · obtain ⟨s, hs, -⟩ := henclosed fun htoken houter => hcloser ⟨htoken, houter⟩
        simp only [Partial.advance?, halone, hinner, hs, Option.bind_eq_bind,
          Option.bind_some] at hstop
        cases hstop

/-- Unless a source is read to its end or closes the group around it, a group remains open. -/
theorem readAhead_closing_open {fuel : Nat} {p : Partial} {rest : List Char}
    (hstop : p.advance? rest = none) (hends : ¬p.Ends rest)
    (hcloses : ¬(p.outer = [] ∧ ∃ left, skip p.spaced rest = ')' :: left)) :
    (readAhead fuel p.enclosed (rest ++ closing)).1.outer ≠ [] := by
  cases hadvance : p.enclosed.advance? (rest ++ closing) with
  | none =>
      rw [readAhead_of_advance_none hadvance]
      exact p.enclosed_outer_ne_nil
  | some found =>
      obtain ⟨hopen, hleft⟩ := advance_closing hstop hends hcloses hadvance
      cases fuel with
      | zero => exact p.enclosed_outer_ne_nil
      | succ fuel =>
          simp only [readAhead, hadvance]
          exact readAhead_outer_ne_nil hopen hleft

end Provision.Regex
