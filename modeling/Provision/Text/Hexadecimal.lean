/-! # Hexadecimal numbers -/

namespace Provision.Text.Hexadecimal

/-- The lowercase digits of a number. -/
def ofNat (n : Nat) : String := .ofList (Nat.toDigits 16 n)

def digit? (c : Char) : Option Nat :=
  if c.isDigit then some (c.toNat - '0'.toNat)
  else if 'a' ≤ c && c ≤ 'f' then some (c.toNat - 'a'.toNat + 10)
  else if 'A' ≤ c && c ≤ 'F' then some (c.toNat - 'A'.toNat + 10)
  else none

def toNat? (digits : List Char) : Option Nat := do
  let values ← digits.mapM digit?
  if values.isEmpty then none else some (values.foldl (fun n d => 16 * n + d) 0)

end Provision.Text.Hexadecimal
