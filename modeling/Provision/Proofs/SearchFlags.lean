import Provision.SearchFlags

/-! # Flags as sets of bits -/

namespace Provision.SearchFlags

/-! ## Adding and taking away flags -/

theorem without_without (a b : SearchFlags) : (a.without b).without b = a.without b := by
  simp [without, UInt8.and_assoc]

theorem contains_union_self (a b : SearchFlags) : (a.union b).contains b = true := by
  simp only [contains, union, decide_eq_true_eq, ← UInt8.toBitVec_inj]
  ext i hi
  simpa using Or.inr

theorem contains_union_of_contains {a c : SearchFlags} (h : a.contains c = true)
    (b : SearchFlags) : (a.union b).contains c = true := by
  simp only [contains, decide_eq_true_eq] at h
  have hbits : (a.bits ||| b.bits) &&& c.bits = c.bits := by
    rw [← h, ← UInt8.toBitVec_inj]
    ext i hi
    simp only [UInt8.toBitVec_and, UInt8.toBitVec_or, BitVec.getElem_and, BitVec.getElem_or]
    grind
  simp only [contains, union, hbits, decide_true]

theorem contains_union_of_apart {b c : SearchFlags} (apart : b.bits &&& c.bits = 0)
    (a : SearchFlags) : (a.union b).contains c = a.contains c := by
  have hbits : (a.bits ||| b.bits) &&& c.bits = a.bits &&& c.bits :=
    calc (a.bits ||| b.bits) &&& c.bits
      _ = (a.bits &&& c.bits) ||| (b.bits &&& c.bits) := by
          rw [← UInt8.toBitVec_inj]
          simp [BitVec.and_or_distrib_left, BitVec.and_comm]
      _ = a.bits &&& c.bits := by simp [apart]
  simp only [contains, union, hbits]

theorem contains_without_of_apart {b c : SearchFlags} (apart : b.bits &&& c.bits = 0)
    (a : SearchFlags) : (a.without b).contains c = a.contains c := by
  have hbits : a.bits &&& ~~~b.bits &&& c.bits = a.bits &&& c.bits := by
    rw [← UInt8.toBitVec_inj] at apart ⊢
    ext i hi
    have hbit := congrArg (·[i]) apart
    simp only [UInt8.toBitVec_and, BitVec.getElem_and, UInt8.toBitVec_ofNat, BitVec.getElem_zero,
      Bool.and_eq_false_imp, UInt8.toBitVec_not, BitVec.getElem_not] at hbit ⊢
    grind
  simp only [contains, without, hbits]

theorem contains_without_self {b : SearchFlags} (h : b.bits ≠ 0) (a : SearchFlags) :
    (a.without b).contains b = false := by
  simp [contains, without, UInt8.and_assoc, h.symm]

theorem contains_conversion_normalizedFor (flags : SearchFlags) (time : Time) :
    (flags.normalizedFor time).contains conversion = flags.contains conversion := by
  unfold normalizedFor
  split
  · exact contains_without_of_apart (by decide) flags
  · rfl

/-! ## Flags with a name -/

/-- The same bits among those with a name. -/
def Agree (a b : SearchFlags) : Prop := a.bits &&& default.bits = b.bits &&& default.bits

instance (a b : SearchFlags) : Decidable (a.Agree b) :=
  inferInstanceAs (Decidable (a.bits &&& default.bits = b.bits &&& default.bits))

theorem Agree.contains_eq {a b flag : SearchFlags} (h : a.Agree b)
    (named : default.contains flag = true) : a.contains flag = b.contains flag := by
  have hnamed : default.bits &&& flag.bits = flag.bits := by simpa [contains] using named
  have hbits : a.bits &&& flag.bits = b.bits &&& flag.bits := by
    rw [← hnamed, ← UInt8.and_assoc, ← UInt8.and_assoc, h]
  simp only [contains, hbits]

theorem Agree.without {a b : SearchFlags} (h : a.Agree b) (flag : SearchFlags) :
    (a.without flag).Agree (b.without flag) := by
  simp only [Agree, SearchFlags.without, UInt8.and_assoc, UInt8.and_comm (~~~flag.bits)]
  rw [← UInt8.and_assoc, ← UInt8.and_assoc, h]

end Provision.SearchFlags
