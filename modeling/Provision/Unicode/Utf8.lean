import Provision.Unicode.Ranges

/-! # UTF-8 sequences of sets -/

namespace Provision.Unicode

/-- Ranges of bytes, one after the other: the byte sequences that take a byte of each in turn. -/
abbrev ByteRanges := List (Nat × Nat)

/-- The sequences for the numbers from `first` to `last`, in ascending order. The leading byte
counts from `lead`, and each of the `further` bytes holds six bits. -/
def byteRanges : (further lead first last : Nat) → List ByteRanges
  | 0, lead, first, last => [[(lead + first, lead + last)]]
  | further + 1, lead, first, last =>
    let block := 64 ^ (further + 1)
    let under (digit first last : Nat) : List ByteRanges :=
      (byteRanges further 0x80 first last).map ((lead + digit, lead + digit) :: ·)
    let low := first / block
    let high := last / block
    if low = high then under low (first % block) (last % block)
    else
      let (begun, low) :=
        if first % block = 0 then ([], low)
        else (under low (first % block) (block - 1), low + 1)
      let (ended, beyond) :=
        if last % block = block - 1 then ([], high + 1)
        else (under high 0 (last % block), high)
      let full := List.replicate (further + 1) (0x80, 0xbf)
      let whole := if low < beyond then [(lead + low, lead + beyond - 1) :: full] else []
      begun ++ whole ++ ended

/-- The code points that take so many bytes after the leading one, with the number that the
leading byte counts from. -/
def encodings : List (Nat × Nat × Nat × Nat) :=
  [(0, 0, 0, 0x7f), (1, 0xc0, 0x80, 0x7ff), (2, 0xe0, 0x800, 0xffff), (3, 0xf0, 0x10000, 0x10ffff)]

/-- The byte sequences of the members of a set, in ascending order. -/
def Ranges.utf8 (r : Ranges) : List ByteRanges :=
  r.toList.flatMap fun (first, last) =>
    encodings.flatMap fun (further, lead, least, most) =>
      if first ≤ most ∧ least ≤ last then
        byteRanges further lead (max first least) (min last most)
      else []

end Provision.Unicode
