import Provision.TypeTree

/-! # Closeness of a candidate

A candidate is close first by its context and then by its value. Less is closer. -/

namespace Provision

/-- Where a candidate's context type lies from the one that is asked for: so many steps above it,
so many below, or elsewhere. -/
inductive ContextDistance
  | above (steps : Nat)
  | below (steps : Nat)
  | unrelated
  deriving DecidableEq

namespace ContextDistance

/-- Any distance above comes before any below, and both before none. -/
def before : ContextDistance → ContextDistance → Bool
  | .above m, .above n => m < n
  | .above _, _ => true
  | .below _, .above _ => false
  | .below m, .below n => m < n
  | .below _, .unrelated => true
  | .unrelated, _ => false

def between (t : TypeTree) (requested candidate : TypeId) : ContextDistance :=
  match t.distance? candidate requested with
  | some steps => .above steps
  | none =>
    match t.distance? requested candidate with
    | some steps => .below steps
    | none => .unrelated

def describe : ContextDistance → String
  | .above steps => "Super(" ++ toString steps ++ ")"
  | .below steps => "Sub(" ++ toString steps ++ ")"
  | .unrelated => "Unrelated"

end ContextDistance

/-- Candidates are compared by context, and where that is equal by value. -/
structure Rank where
  context : ContextDistance := .above 0
  value : Nat := 0
  deriving DecidableEq

namespace Rank

def before (a b : Rank) : Bool :=
  a.context.before b.context || a.context == b.context && a.value < b.value

def ofContext (t : TypeTree) (requested candidate : TypeId) : Rank :=
  { context := .between t requested candidate }

/-- The value part of a candidate that has no distance: beyond every distance in a tree. -/
def noDistance : Nat := UInt32.size - 1

def withValue (r : Rank) (steps : Option Nat) : Rank :=
  { r with value := steps.getD noDistance }

/-- The positions of ranks in ascending order. Equal ranks keep theirs. -/
def order (ranks : List Rank) : List Nat :=
  (ranks.zipIdx.mergeSort fun a b => !b.1.before a.1).map (·.2)

def describe (r : Rank) : String := r.context.describe ++ ":" ++ toString r.value

end Rank

end Provision
