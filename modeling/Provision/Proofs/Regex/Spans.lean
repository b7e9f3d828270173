import Mathlib.Logic.Function.Iterate
import Provision.Regex.Basic

/-! # What a regular expression matches

`Spans` says which parts of a text an expression matches. Matching by sets of places comes to
exactly the ends of these parts. -/

namespace Provision.Regex

/-! ## Parts of a text -/

/-- The character before a place. -/
def before? (text : List Char) : Nat → Option Char
  | 0 => none
  | i + 1 => text[i]?

/-- From one place to another by so many steps. -/
def Steps (step : Nat → Nat → Prop) : Nat → Nat → Nat → Prop
  | 0, i, j => i = j
  | n + 1, i, j => ∃ k, step i k ∧ Steps step n k j

/-- Whether an expression matches the part of a text from one place to another. A repetition is
made the least number of times, and then as often as its bound allows. -/
def Spans (text : List Char) : Regex → Nat → Nat → Prop
  | .empty, i, j => i = j
  | .chars set, i, j => i + 1 = j ∧ ∃ c, text[i]? = some c ∧ set.contains c = true
  | .look holds, i, j => i = j ∧ holds (before? text i) text[i]? = true
  | .seq first second, i, j => ∃ k, Spans text first i k ∧ Spans text second k j
  | .alt first second, i, j => Spans text first i j ∨ Spans text second i j
  | .repeats body least most, i, j =>
    ∃ extra, (∀ n, most = some n → extra ≤ n - least) ∧
      Steps (Spans text body) (least + extra) i j
  | .group _ body, i, j => Spans text body i j

/-- Whether an expression matches a text from its first to its last character. -/
def MatchesWhole (r : Regex) (text : List Char) : Prop := Spans text r 0 text.length

/-! ## Steps -/

section

variable {step : Nat → Nat → Prop} {i j : Nat}

theorem steps_add (m n : Nat) :
    Steps step (m + n) i j ↔ ∃ k, Steps step m i k ∧ Steps step n k j := by
  induction m generalizing i with
  | zero => simp [Steps]
  | succ m ih =>
      rw [Nat.add_right_comm]
      simp only [Steps, ih]
      constructor
      · rintro ⟨k, hk, l, hl, hrest⟩
        exact ⟨l, ⟨k, hk, hl⟩, hrest⟩
      · rintro ⟨l, ⟨k, hk, hl⟩, hrest⟩
        exact ⟨k, hk, l, hl, hrest⟩

theorem steps_optional_iff (n : Nat) :
    Steps (fun i j => i = j ∨ step i j) n i j ↔ ∃ m ≤ n, Steps step m i j := by
  induction n generalizing i with
  | zero => simp [Steps]
  | succ n ih =>
      simp only [Steps, ih]
      constructor
      · rintro ⟨k, rfl | hk, m, hm, hrest⟩
        · exact ⟨m, by omega, hrest⟩
        · exact ⟨m + 1, by omega, k, hk, hrest⟩
      · rintro ⟨m, hm, hsteps⟩
        cases m with
        | zero => exact ⟨i, .inl rfl, 0, by omega, hsteps⟩
        | succ m =>
            obtain ⟨k, hk, hrest⟩ := hsteps
            exact ⟨k, .inr hk, m, by omega, hrest⟩

theorem le_of_steps (forward : ∀ i j, step i j → i ≤ j) {n : Nat} (h : Steps step n i j) :
    i ≤ j := by
  induction n generalizing i with
  | zero => exact Nat.le_of_eq h
  | succ n ih =>
      obtain ⟨k, hk, hrest⟩ := h
      exact Nat.le_trans (forward i k hk) (ih hrest)

/-- Steps that lead nowhere can be left out, and the others are no more than the places passed. -/
theorem exists_steps_le (forward : ∀ i j, step i j → i ≤ j) {n : Nat} (h : Steps step n i j) :
    ∃ m ≤ j - i, Steps step m i j := by
  induction n generalizing i with
  | zero => exact ⟨0, by omega, h⟩
  | succ n ih =>
      obtain ⟨k, hk, hrest⟩ := h
      obtain ⟨m, hm, hsteps⟩ := ih hrest
      have hik := forward i k hk
      have hkj := le_of_steps forward hrest
      rcases Nat.eq_or_lt_of_le hik with rfl | hlt
      · exact ⟨m, hm, hsteps⟩
      · exact ⟨m + 1, by omega, k, hk, hsteps⟩

end

/-! ## Places of a part -/

theorem le_of_spans {text : List Char} {r : Regex} {i j : Nat} (h : Spans text r i j) : i ≤ j := by
  induction r generalizing i j with
  | empty => exact Nat.le_of_eq h
  | chars set =>
      have hnext := h.1
      omega
  | look holds => exact Nat.le_of_eq h.1
  | seq first second ihFirst ihSecond =>
      obtain ⟨k, hfirst, hsecond⟩ := h
      exact Nat.le_trans (ihFirst hfirst) (ihSecond hsecond)
  | alt first second ihFirst ihSecond => exact h.elim ihFirst ihSecond
  | repeats body least most ih =>
      obtain ⟨extra, -, hsteps⟩ := h
      exact le_of_steps (fun _ _ => ih) hsteps
  | group captured body ih => exact ih h

theorem le_length_of_steps {step : Nat → Nat → Prop} {length : Nat}
    (within : ∀ i j, step i j → i ≤ length → j ≤ length) {n i j : Nat} (h : Steps step n i j)
    (hi : i ≤ length) : j ≤ length := by
  induction n generalizing i with
  | zero => exact h ▸ hi
  | succ n ih =>
      obtain ⟨k, hk, hrest⟩ := h
      exact ih hrest (within i k hk hi)

theorem le_length_of_spans {text : List Char} {r : Regex} {i j : Nat} (h : Spans text r i j)
    (hi : i ≤ text.length) : j ≤ text.length := by
  induction r generalizing i j with
  | empty => exact h ▸ hi
  | chars set =>
      obtain ⟨rfl, c, hc, -⟩ := h
      exact (List.getElem?_eq_some_iff.mp hc).1
  | look holds => exact h.1 ▸ hi
  | seq first second ihFirst ihSecond =>
      obtain ⟨k, hfirst, hsecond⟩ := h
      exact ihSecond hsecond (ihFirst hfirst hi)
  | alt first second ihFirst ihSecond =>
      rcases h with h | h
      · exact ihFirst h hi
      · exact ihSecond h hi
  | repeats body least most ih =>
      obtain ⟨extra, -, hsteps⟩ := h
      exact le_length_of_steps (fun _ _ => ih) hsteps hi
  | group captured body ih => exact ih h hi

/-! ## Repetitions -/

section

variable {text : List Char} {body : Regex} {least i j : Nat}

/-- A repetition with a bound is its least count and then at most the rest. -/
theorem spans_repeats_iff {n : Nat} :
    Spans text (.repeats body least (some n)) i j ↔
      ∃ k, Steps (Spans text body) least i k ∧
        ∃ extra ≤ n - least, Steps (Spans text body) extra k j := by
  simp only [Spans, Option.some.injEq, forall_eq', steps_add]
  constructor
  · rintro ⟨extra, hextra, k, hleast, hrest⟩
    exact ⟨k, hleast, extra, hextra, hrest⟩
  · rintro ⟨k, hleast, extra, hextra, hrest⟩
    exact ⟨extra, hextra, k, hleast, hrest⟩

/-- Without a bound, as many further repetitions as there are places lead everywhere. -/
theorem spans_repeats_unbounded_iff (hi : i ≤ text.length) :
    Spans text (.repeats body least none) i j ↔
      ∃ k, Steps (Spans text body) least i k ∧
        ∃ extra ≤ text.length + 1, Steps (Spans text body) extra k j := by
  simp only [Spans, reduceCtorEq, false_implies, implies_true, true_and, steps_add]
  constructor
  · rintro ⟨extra, k, hleast, hrest⟩
    obtain ⟨fewer, hfewer, hrest⟩ := exists_steps_le (fun _ _ => le_of_spans) hrest
    have hk := le_length_of_steps (fun _ _ => le_length_of_spans) hleast hi
    have hj := le_length_of_steps (fun _ _ => le_length_of_spans) hrest hk
    exact ⟨k, hleast, fewer, by omega, hrest⟩
  · rintro ⟨k, hleast, extra, -, hrest⟩
    exact ⟨extra, k, hleast, hrest⟩

end

/-! ## Sets of places -/

namespace Marks

def Has (marks : Marks) (i : Nat) : Prop := marks[i]? = some true

theorem Has.lt {marks : Marks} {i : Nat} (h : marks.Has i) : i < marks.length :=
  (List.getElem?_eq_some_iff.mp h).1

/-- A function of sets of so many places that goes from each marked place to all that a relation
leads to. -/
structure Follows (size : Nat) (f : Marks → Marks) (leads : Nat → Nat → Prop) : Prop where
  length_eq : ∀ marks : Marks, marks.length = size → (f marks).length = size
  has_iff : ∀ marks : Marks, marks.length = size → ∀ j,
    (f marks).Has j ↔ ∃ i, marks.Has i ∧ leads i j

namespace Follows

variable {size : Nat} {f g : Marks → Marks} {leads further : Nat → Nat → Prop}

theorem id : Follows size id Eq :=
  ⟨fun _ h => h, fun _ _ _ => by simp⟩

theorem comp (hg : Follows size g further) (hf : Follows size f leads) :
    Follows size (fun marks => g (f marks)) fun i j => ∃ k, leads i k ∧ further k j := by
  refine ⟨fun marks h => hg.length_eq _ (hf.length_eq marks h), ?_⟩
  intro marks h j
  rw [hg.has_iff _ (hf.length_eq marks h)]
  simp only [hf.has_iff marks h]
  constructor
  · rintro ⟨k, ⟨i, hi, hik⟩, hkj⟩
    exact ⟨i, hi, k, hik, hkj⟩
  · rintro ⟨i, hi, k, hik, hkj⟩
    exact ⟨k, ⟨i, hi, hik⟩, hkj⟩

theorem union (hf : Follows size f leads) (hg : Follows size g further) :
    Follows size (fun marks => (f marks).union (g marks)) fun i j => leads i j ∨ further i j := by
  constructor
  · intro marks h
    simp [Marks.union, hf.length_eq marks h, hg.length_eq marks h]
  · intro marks h j
    have hunion : ((f marks).union (g marks)).Has j ↔ (f marks).Has j ∨ (g marks).Has j := by
      have hleft := hf.length_eq marks h
      have hright := hg.length_eq marks h
      by_cases hj : j < size
      · simp [Has, Marks.union, hleft, hright, hj]
      · simp [Has, Marks.union, hleft, hright, hj]
    rw [hunion, hf.has_iff marks h, hg.has_iff marks h]
    simp only [and_or_left, exists_or]

theorem iterate_eq (f : Marks → Marks) (count : Nat) (marks : Marks) :
    iterate f count marks = f^[count] marks := by
  induction count generalizing marks with
  | zero => rfl
  | succ count ih =>
      simp only [Regex.iterate, Function.iterate_succ_apply]
      split
      · rename_i same
        rw [same, Function.iterate_fixed same]
      · exact ih _

theorem iterate (hf : Follows size f leads) (count : Nat) :
    Follows size (Regex.iterate f count) (Steps leads count) := by
  have heq : Regex.iterate f count = fun marks => f^[count] marks := funext (iterate_eq f count)
  rw [heq]
  induction count with
  | zero => exact id
  | succ count ih => exact (ih (funext (iterate_eq f count))).comp hf

end Follows

end Marks

/-! ## Matching -/

theorem surroundings_length (before : Option Char) (text : List Char) :
    (surroundings before text).length = text.length + 1 := by
  induction text generalizing before with
  | nil => rfl
  | cons c rest ih => simp [surroundings, ih]

theorem getElem?_surroundings (text : List Char) {i : Nat} (hi : i ≤ text.length) :
    (surroundings none text)[i]? = some (before? text i, text[i]?) := by
  have hafter : ∀ (before : Option Char) (text : List Char) (i : Nat), i < text.length →
      (surroundings before text)[i + 1]? = some (text[i]?, text[i + 1]?) := by
    intro before text
    induction text generalizing before with
    | nil =>
        intro i hi
        simp at hi
    | cons c rest ih =>
        intro i hi
        cases i with
        | zero => cases rest <;> simp [surroundings]
        | succ i => simpa [surroundings] using ih (some c) i (by simpa using hi)
  cases i with
  | zero => cases text <;> simp [surroundings, before?]
  | succ i => exact hafter none text i hi

/-- Beyond the least count, a repetition is made as often as leads to all its ends. -/
theorem ends_repeats (text : List Char) (body : Regex) (least : Nat) (most : Option Nat) :
    ∃ extra,
      (ends text (.repeats body least most) = fun marks =>
        iterate (fun marks => marks.union (ends text body marks)) extra
          (iterate (ends text body) least marks)) ∧
      ∀ i ≤ text.length, ∀ j, Spans text (.repeats body least most) i j ↔
        ∃ k, Steps (Spans text body) least i k ∧
          ∃ m ≤ extra, Steps (Spans text body) m k j := by
  cases most with
  | some n => exact ⟨n - least, rfl, fun _ _ _ => spans_repeats_iff⟩
  | none => exact ⟨text.length + 1, rfl, fun _ hi _ => spans_repeats_unbounded_iff hi⟩

/-- Going through an expression leads from the places where parts begin to those where they
end. -/
theorem ends_follows (text : List Char) (r : Regex) :
    Marks.Follows (text.length + 1) (ends text r) (Spans text r) := by
  induction r with
  | empty => exact Marks.Follows.id
  | chars set =>
      refine ⟨fun marks h => by simp [ends, h], ?_⟩
      intro marks h j
      cases j with
      | zero => simp [ends, Marks.Has, Spans]
      | succ j =>
          have hlast : (∃ i, marks.Has i ∧ Spans text (.chars set) i (j + 1)) ↔
              marks[j]? = some true ∧ ∃ c, text[j]? = some c ∧ set.contains c = true := by
            constructor
            · rintro ⟨i, hi, hij, hc⟩
              obtain rfl : i = j := by omega
              exact ⟨hi, hc⟩
            · rintro ⟨hj, hc⟩
              exact ⟨j, hj, rfl, hc⟩
          rw [hlast]
          simp only [ends, Marks.Has, List.getElem?_cons_succ, List.getElem?_zipWith]
          cases marks[j]? <;> cases text[j]? <;> simp
  | look holds =>
      refine ⟨fun marks h => by simp [ends, h, surroundings_length], ?_⟩
      intro marks h j
      have hsame : (∃ i, marks.Has i ∧ Spans text (.look holds) i j) ↔
          marks.Has j ∧ holds (before? text j) text[j]? = true := by
        constructor
        · rintro ⟨i, hi, rfl, hholds⟩
          exact ⟨hi, hholds⟩
        · rintro ⟨hj, hholds⟩
          exact ⟨j, hj, rfl, hholds⟩
      rw [hsame]
      simp only [ends, Marks.Has, List.getElem?_zipWith]
      by_cases hj : j ≤ text.length
      · rw [getElem?_surroundings text hj]
        cases marks[j]? <;> simp
      · have hout : marks[j]? = none := List.getElem?_eq_none (by omega)
        simp [hout]
  | seq first second ihFirst ihSecond => exact ihSecond.comp ihFirst
  | alt first second ihFirst ihSecond => exact ihFirst.union ihSecond
  | repeats body least most ih =>
      obtain ⟨extra, hends, hspans⟩ := ends_repeats text body least most
      have hfurther := Marks.Follows.id.union ih
      have hall := (hfurther.iterate extra).comp (ih.iterate least)
      rw [hends]
      refine ⟨hall.length_eq, ?_⟩
      intro marks h j
      refine (hall.has_iff marks h j).trans (exists_congr fun i => and_congr_right fun hi => ?_)
      have hplace : i ≤ text.length := by
        have hlt := hi.lt
        omega
      simp only [steps_optional_iff]
      exact (hspans i hplace j).symm
  | group captured body ih => exact ih

theorem matchesWithin_iff (r : Regex) (text : List Char) :
    r.matchesWithin text = true ↔ ∃ i j, i ≤ text.length ∧ Spans text r i j := by
  have hends := (ends_follows text r).has_iff (List.replicate (text.length + 1) true) (by simp)
  have hstart : ∀ i, Marks.Has (List.replicate (text.length + 1) true) i ↔ i ≤ text.length := by
    intro i
    rw [← Nat.lt_succ_iff]
    simp [Marks.Has, List.getElem?_replicate]
  simp only [hstart] at hends
  have hmark : r.matchesWithin text = true ↔
      ∃ j, Marks.Has (r.ends text (List.replicate (text.length + 1) true)) j := by
    simp [matchesWithin, Marks.Has, List.mem_iff_getElem?]
  rw [hmark]
  simp only [hends]
  exact exists_comm

end Provision.Regex
