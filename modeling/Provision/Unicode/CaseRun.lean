import Provision.Unicode.Ranges

/-! # Runs of case pairs -/

namespace Provision.Unicode

/-- Code points `first`, `first + step`, … up to `last`, each paired with the code point that lies
as far from it as `image` lies from `first`. -/
structure CaseRun where
  first : Nat
  last : Nat
  step : Nat
  image : Nat

namespace CaseRun

/-- Reads lines of blank-separated runs such as `41-5a:61`, `100-12e/2:101` and `178:ff`. -/
def ofLines (lines : List String) : Array CaseRun :=
  let run (token : List Char) : CaseRun :=
    match token.splitOn ':' with
    | [domain, image] =>
      let (span, step) := match domain.splitOn '/' with
        | [span, step] => (span, ofHex step)
        | _ => (domain, 1)
      match span.splitOn '-' with
      | [first, last] => ⟨ofHex first, ofHex last, step, ofHex image⟩
      | _ => ⟨ofHex span, ofHex span, step, ofHex image⟩
    | _ => ⟨0, 0, 1, 0⟩
  (lines.flatMap fun line => (line.toList.splitOn ' ').map run).toArray

def image? (r : CaseRun) (c : Nat) : Option Nat :=
  if r.first ≤ c ∧ c ≤ r.last ∧ (c - r.first) % r.step = 0 then some (c - r.first + r.image)
  else none

def pairs (r : CaseRun) : List (Nat × Nat) :=
  (List.range ((r.last - r.first) / r.step + 1)).map fun i =>
    (r.first + i * r.step, r.image + i * r.step)

end CaseRun

end Provision.Unicode
