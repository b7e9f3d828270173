import Provision.Json.Basic
import Provision.Time
import Provision.Unicode.Character

/-! # How far a search goes

Flags are stored as text: their names, and in hexadecimal what has no name, with bars between. -/

namespace Provision

/-- What a search may do beyond the plain look-up, as bits. Bits without a name are kept. -/
structure SearchFlags where
  bits : UInt8
  deriving DecidableEq

namespace SearchFlags

def empty : SearchFlags := ⟨0⟩

/-- Look among present values where no past or future one is found. -/
def fallback : SearchFlags := ⟨1⟩

/-- Accept values that have to be converted. -/
def conversion : SearchFlags := ⟨2⟩

def default : SearchFlags := ⟨3⟩

def union (a b : SearchFlags) : SearchFlags := ⟨a.bits ||| b.bits⟩

def without (a b : SearchFlags) : SearchFlags := ⟨a.bits &&& ~~~b.bits⟩

def contains (a b : SearchFlags) : Bool := a.bits &&& b.bits = b.bits

/-- At the present there is nothing to fall back to. -/
def normalizedFor (flags : SearchFlags) (time : Time) : SearchFlags :=
  if time.isNow then flags.without fallback else flags

/-! ## Text -/

def names : List (String × SearchFlags) :=
  [("FALLBACK_TO_DEFAULT_TIME_STATE", fallback), ("ALLOW_CONVERSION", conversion)]

/-- The names of the bits, and the bits without a name in hexadecimal behind them. -/
def display (flags : SearchFlags) : String :=
  let named := names.filter fun (_, flag) => flags.contains flag
  let rest := named.foldl (fun rest (_, flag) => rest.without flag) flags
  let parts := named.map (·.1) ++
    if rest.bits = 0 then [] else ["0x" ++ Text.Hexadecimal.ofNat rest.bits.toNat]
  " | ".intercalate parts

def trim (text : List Char) : List Char :=
  let blank := Unicode.isWhitespace
  ((text.dropWhile blank).reverse.dropWhile blank).reverse

/-- Reads a hexadecimal number of one byte. A plus sign may stand before it. -/
def readHex? (digits : List Char) : Option SearchFlags := do
  let digits := match digits with
    | '+' :: digits => digits
    | _ => digits
  let n ← Text.Hexadecimal.toNat? digits
  if n < 256 then some ⟨.ofNat n⟩ else none

/-- Reads one part: a name, or a number behind `0x`. -/
def readPart? (part : List Char) : Option SearchFlags :=
  match part with
  | '0' :: 'x' :: digits => readHex? digits
  | _ => names.lookup (.ofList part)

/-- Reads parts with bars between them. A blank text has no part. -/
def ofText? (text : String) : Option SearchFlags :=
  if (trim text.toList).isEmpty then some empty
  else do
    let parts ← (text.splitOn "|").mapM fun part => readPart? (trim part.toList)
    some (parts.foldl union empty)

def toJson (flags : SearchFlags) : Json := .ofString flags.display

def ofJson? (json : Json) : Option SearchFlags := json.text?.bind ofText?

def describe (flags : SearchFlags) : String :=
  "ResolveFlags(" ++ (if flags.bits = 0 then "0x0" else flags.display) ++ ")"

end SearchFlags

end Provision
