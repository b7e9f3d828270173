import Provision.Text.Hexadecimal

/-! # Sets of code points

A set holds characters only: the code points that are set aside for surrogates belong to none. -/

namespace Provision.Unicode

def ofHex (digits : List Char) : Nat := (Text.Hexadecimal.toNat? digits).getD 0

/-- A set of code points: ranges with both ends included, in ascending order, with a gap between
any two. -/
structure Ranges where
  bounds : Array (Nat × Nat)

namespace Ranges

/-! ## Making sets -/

/-- Joins the ranges of an ascending list that overlap or touch. -/
def join : List (Nat × Nat) → List (Nat × Nat)
  | [] => []
  | range :: rest => extend range rest
where
  extend (held : Nat × Nat) : List (Nat × Nat) → List (Nat × Nat)
    | [] => [held]
    | range :: rest =>
      if range.1 ≤ held.2 + 1 then extend (held.1, max held.2 range.2) rest
      else held :: extend range rest

def startsFirst (a b : Nat × Nat) : Bool := a.1 ≤ b.1

def ofList (ranges : List (Nat × Nat)) : Ranges :=
  ⟨(join (ranges.mergeSort startsFirst)).toArray⟩

/-- Reads lines of blank-separated ranges such as `41-5a` and single code points such as `aa`. -/
def ofLines (lines : List String) : Ranges :=
  let range (token : List Char) : Nat × Nat :=
    match token.splitOn '-' with
    | [first, last] => (ofHex first, ofHex last)
    | _ => (ofHex token, ofHex token)
  ⟨(lines.flatMap fun line => (line.toList.splitOn ' ').map range).toArray⟩

def empty : Ranges := ⟨#[]⟩

def single (c : Char) : Ranges := ⟨#[(c.toNat, c.toNat)]⟩

/-! ## Members -/

/-- Whether one of the ranges between positions `lo` and `hi` holds `c`, by bisection. -/
def within (bounds : Array (Nat × Nat)) (c lo hi : Nat) : Bool :=
  if lo < hi then
    let mid := (lo + hi) / 2
    match bounds[mid]? with
    | none => false
    | some (first, last) =>
      if c < first then within bounds c lo mid
      else if last < c then within bounds c (mid + 1) hi
      else true
  else false
termination_by hi - lo

def holds (r : Ranges) (code : Nat) : Bool :=
  within r.bounds code 0 r.bounds.size

def contains (r : Ranges) (c : Char) : Bool := r.holds c.toNat

def toList (r : Ranges) : List (Nat × Nat) := r.bounds.toList

theorem contains_single (c d : Char) : (single c).contains d = (d == c) := by
  unfold contains holds single within
  rw [show (#[(c.toNat, c.toNat)] : Array (Nat × Nat)).size = 1 from rfl]
  simp only [show (0 + 1) / 2 = 0 from rfl, Nat.lt_add_one, if_true]
  simp only [show (#[(c.toNat, c.toNat)] : Array (Nat × Nat))[0]? = some (c.toNat, c.toNat) from rfl]
  by_cases h : d = c
  · subst h
    simp
  · have hn : d.toNat ≠ c.toNat := fun e => h (Char.ext (UInt32.toNat_inj.1 e))
    rcases Nat.lt_or_gt_of_ne hn with l | l
    · simp only [l, if_true]
      unfold within
      simpa using h
    · simp only [Nat.not_lt.2 (Nat.le_of_lt l), l, if_true, if_false]
      unfold within
      simpa using h

/-! ## Set operations -/

def union (a b : Ranges) : Ranges :=
  ⟨(join (a.toList.merge b.toList startsFirst)).toArray⟩

instance : Union Ranges := ⟨union⟩

/-- The code points that are no characters. -/
def surrogates : Ranges := ⟨#[(0xd800, 0xdfff)]⟩

/-- The code points from `start` on that lie in none of the ranges of an ascending list. -/
def gaps (start : Nat) : List (Nat × Nat) → List (Nat × Nat)
  | [] => if start ≤ 0x10ffff then [(start, 0x10ffff)] else []
  | (first, last) :: rest =>
    if start < first then (start, first - 1) :: gaps (last + 1) rest else gaps (last + 1) rest

/-- All other characters. -/
def complement (r : Ranges) : Ranges :=
  ⟨(gaps 0 (r ∪ surrogates).toList).toArray⟩

instance : Inter Ranges := ⟨fun a b => (a.complement ∪ b.complement).complement⟩

instance : SDiff Ranges := ⟨fun a b => (a.complement ∪ b).complement⟩

def symmetricDifference (a b : Ranges) : Ranges := (a \ b) ∪ (b \ a)

def ofAll (sets : List Ranges) : Ranges := ofList (sets.flatMap toList)

def all : Ranges := empty.complement

def between (first last : Char) : Ranges :=
  ⟨#[(first.toNat, last.toNat)]⟩ \ surrogates

def ofCodes (codes : List Nat) : Ranges := ofList (codes.map fun code => (code, code))

end Ranges

end Provision.Unicode
