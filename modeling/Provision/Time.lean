import Provision.Json.Basic

/-! # Time states -/

namespace Provision

/-- Whether a value is asked for as it was, is, or will be. -/
inductive Time
  | past
  | now
  | future
  deriving DecidableEq

namespace Time

def all : List Time := [.past, .now, .future]

def value : Time → Int
  | .past => -1
  | .now => 0
  | .future => 1

def index : Time → Nat
  | .past => 0
  | .now => 1
  | .future => 2

def isNow (t : Time) : Bool := t = .now

def display : Time → String
  | .past => "past"
  | .now => "now"
  | .future => "future"

def describe : Time → String
  | .past => "Past"
  | .now => "Now"
  | .future => "Future"

/-! ## Numbers and stored form -/

structure Invalid where
  value : Int
  deriving DecidableEq

def Invalid.message (e : Invalid) : String :=
  "time must be -1, 0 or 1, got " ++ toString e.value

def ofInt (n : Int) : Except Invalid Time :=
  if n = -1 then .ok .past
  else if n = 0 then .ok .now
  else if n = 1 then .ok .future
  else .error ⟨n⟩

def toJson (t : Time) : Json := .ofString t.display

def ofJson? (json : Json) : Option Time :=
  json.alternative?.bind fun name => all.find? (·.display == name)

end Time

end Provision
