import Provision.Json.Basic

/-! # Type identifiers -/

namespace Provision

/-- A type of a type tree, by its number there. -/
structure TypeId where
  index : UInt32
  deriving DecidableEq

namespace TypeId

def toNat (id : TypeId) : Nat := id.index.toNat

def ofNat (n : Nat) : TypeId := ⟨.ofNat n⟩

theorem toNat_ofNat_le (n : Nat) : (ofNat n).toNat ≤ n := by
  simp only [toNat, ofNat, UInt32.toNat_ofNat']
  exact Nat.mod_le _ _

/-- The type that all others extend. -/
def root : TypeId := ⟨0⟩

def display (id : TypeId) : String := "#" ++ toString id.toNat

def describe (id : TypeId) : String := "TypeKey(" ++ toString id.toNat ++ ")"

/-! ## Stored form -/

def toJson (id : TypeId) : Json := .ofNat id.toNat

def ofJson? (json : Json) : Option TypeId := do
  let n ← json.nat?
  if n < UInt32.size then some (.ofNat n) else none

end TypeId

end Provision
