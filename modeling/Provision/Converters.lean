import Provision.Value

/-! # Conversions between types

Conversions are given for pairs of types. One that leads from a wider type serves every narrower
one, and one that leads to a narrower type serves every wider one. In place of these, conversions
can come from anywhere else. -/

namespace Provision

/-- Turns a value into another in the present state, or fails. -/
abbrev Converter (σ α : Type) := σ → Value α → Option (Value α)

def Converter.identity {σ α : Type} : Converter σ α := fun _ v => some v

/-- Conversions by the pair of types they lead from and to. -/
structure Converters (σ α : Type) where
  entries : List ((TypeId × TypeId) × Converter σ α) := []

namespace Converters

variable {σ α : Type}

def size (c : Converters σ α) : Nat := c.entries.length

/-- Adds a conversion in the place of an earlier one for the same pair. -/
def register (c : Converters σ α) (source target : TypeId) (f : Converter σ α) :
    Converters σ α :=
  ⟨((source, target), f) :: c.entries.filter (·.1 != (source, target))⟩

/-! ## Choice of a conversion -/

/-- A conversion with its target and the steps from there up to the type that is asked for. -/
structure Candidate (σ α : Type) where
  steps : Nat
  target : TypeId
  converter : Converter σ α

/-- Fewer steps come first, and of equally many the target that was defined first. -/
def Candidate.precedes (a b : Candidate σ α) : Bool :=
  a.steps < b.steps || a.steps == b.steps && a.target.toNat < b.target.toNat

def Candidate.first? : List (Candidate σ α) → Option (Candidate σ α)
  | [] => none
  | c :: rest =>
    match first? rest with
    | some d => if d.precedes c then some d else some c
    | none => some c

/-- The conversions from `source` itself that give a value of type `target`. -/
def candidates (c : Converters σ α) (t : TypeTree) (source target : TypeId) :
    List (Candidate σ α) :=
  c.entries.filterMap fun ((s, d), converter) =>
    if s = source then (t.distance? target d).map (⟨·, d, converter⟩) else none

/-- The conversion from `source` to `target`: nothing to do if every `source` is a `target`, else
the best one of the closest type above `source` that has any. -/
def find? (c : Converters σ α) (t : TypeTree) (source target : TypeId) :
    Option (Converter σ α) :=
  if t.subsumes target source then some .identity
  else
    (t.ancestors source).findSome? fun above =>
      (Candidate.first? (c.candidates t above target)).map (·.converter)

def describe (c : Converters σ α) : String :=
  "ConverterRegistry \x7b converter_count: " ++ toString c.size ++ " \x7d"

end Converters

/-! ## Where conversions come from -/

/-- What finds conversions in a tree: those that are registered, or anything else. -/
inductive Conversion (σ α : Type)
  | registered (converters : Converters σ α)
  | custom (find? : TypeTree → TypeId → TypeId → Option (Converter σ α))

namespace Conversion

variable {σ α : Type}

def find? : Conversion σ α → TypeTree → TypeId → TypeId → Option (Converter σ α)
  | .registered converters => converters.find?
  | .custom find? => find?

def convert? (c : Conversion σ α) (t : TypeTree) (s : σ) (v : Value α) (target : TypeId) :
    Option (Value α) :=
  (c.find? t v.type target).bind fun f => f s v

end Conversion

end Provision
