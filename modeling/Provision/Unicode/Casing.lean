import Provision.Unicode.CaseTable
import Provision.Unicode.Character

/-! # Lowercase and case-insensitive comparison -/

namespace Provision.Unicode

/-! ## Case-insensitive comparison -/

/-- The code points that have a representative for the case-insensitive comparison, with it. -/
def folds : List (Nat × Nat) := CaseTable.folding.toList.flatMap CaseRun.pairs

/-- The same for the ASCII letters alone. -/
def asciiFolds : List (Nat × Nat) := CaseRun.pairs ⟨0x41, 0x5a, 1, 0x61⟩

/-- The members and all code points that share a representative with one of them. -/
def Ranges.closeUnder (r : Ranges) (folds : List (Nat × Nat)) : Ranges :=
  let met := folds.filter fun (c, image) => r.holds c || r.holds image
  let images := Ranges.ofCodes (met.map (·.2))
  let sources := (folds.filter (images.holds ·.2)).map (·.1)
  .ofAll [r, images, .ofCodes sources]

/-! ## Lowercase -/

/-- Whether the first character that casing does not look past is cased. -/
def meetsCased (cs : List Char) : Bool :=
  (cs.find? (!isCaseIgnorable ·)).any isCased

/-- Lowercases a text, given its characters so far in reverse. A capital sigma that ends a word
becomes the final form, and the dotted capital I keeps its dot as a mark of its own. -/
def lowercaseFrom (before : List Char) : List Char → List Char
  | [] => []
  | c :: rest =>
    let image :=
      if c == 'Σ' then
        if meetsCased before && !meetsCased rest then ['ς'] else ['σ']
      else if c == 'İ' then ['i', '\u0307']
      else [Char.ofNat ((CaseTable.lowercase.findSome? (·.image? c.toNat)).getD c.toNat)]
    image ++ lowercaseFrom (c :: before) rest

def lowercased (s : String) : String :=
  .ofList (lowercaseFrom [] s.toList)

end Provision.Unicode
