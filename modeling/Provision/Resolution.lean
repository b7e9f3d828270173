import Provision.View

/-! # Results of a search

A result is either a list of candidates in order, or a refusal. -/

namespace Provision

/-- What a search yields: candidates, possibly none, or a refusal with or without a message. -/
inductive Resolution (σ α : Type)
  | found (candidates : List (View σ α))
  | refused (message : Option String)

inductive NotUnique
  | empty
  | multiple (count : Nat)
  | refused
  deriving DecidableEq

def NotUnique.message : NotUnique → String
  | .empty => "resolution is empty"
  | .multiple count => "resolution is not unique (size: " ++ toString count ++ ")"
  | .refused => "resolution errored"

namespace Resolution

variable {σ α : Type}

def empty : Resolution σ α := .found []

def candidates : Resolution σ α → List (View σ α)
  | .found candidates => candidates
  | .refused _ => []

def isRefused : Resolution σ α → Bool
  | .found _ => false
  | .refused _ => true

def message? : Resolution σ α → Option String
  | .found _ => none
  | .refused message => message

def isEmpty (r : Resolution σ α) : Bool := r.candidates.isEmpty

def isSuccessful (r : Resolution σ α) : Bool := !r.isEmpty

def isMultiple (r : Resolution σ α) : Bool := 1 < r.candidates.length

/-- Whether the search ends here. -/
def isConclusive (r : Resolution σ α) : Bool := r.isRefused || r.isSuccessful

def any? (r : Resolution σ α) : Option (View σ α) := r.candidates.head?

def unique : Resolution σ α → Except NotUnique (View σ α)
  | .refused _ => .error .refused
  | .found [] => .error .empty
  | .found [only] => .ok only
  | .found many => .error (.multiple many.length)

/-- Whether all candidates, and at least one, offer a change. -/
def supportsChange (r : Resolution σ α) (mode : ChangeMode) : Bool :=
  r.isSuccessful && r.candidates.all (·.hasChanger mode)

def equal : Resolution σ α → Resolution σ α → Bool
  | .found xs, .found ys => xs == ys
  | .refused m, .refused n => m == n
  | _, _ => false

instance : BEq (Resolution σ α) := ⟨equal⟩

def describe : Resolution σ α → String
  | .found candidates =>
    "Resolution \x7b state: Found(" ++ Provider.describeList (candidates.map (·.describe)) ++
      ") \x7d"
  | .refused none => "Resolution \x7b state: Errored(None) \x7d"
  | .refused (some message) =>
    "Resolution \x7b state: Errored(Some(" ++ Text.quote message ++ ")) \x7d"

end Resolution

end Provision
