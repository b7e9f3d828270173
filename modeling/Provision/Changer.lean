import Provision.ChangeMode
import Provision.Converters

/-! # Changing a value through its context

A change is a function on the state. Whether it takes a value depends on its mode alone. -/

namespace Provision

/-- A change to the state, made for a context, and in some modes with a value. -/
inductive Changer (σ α : Type)
  | withValue (change : Value α → Value α → σ → σ)
  | withoutValue (change : Value α → σ → σ)

namespace Changer

variable {σ α : Type}

/-- Makes the change, and tells whether it was made. A change that takes a value is not made
without one; any other pays no heed to the value. -/
def apply (c : Changer σ α) (context : Value α) (value : Option (Value α)) (s : σ) : Bool × σ :=
  match c, value with
  | .withoutValue change, _ => (true, change context s)
  | .withValue change, some v => (true, change context v s)
  | .withValue _, none => (false, s)

def isWithoutValue : Changer σ α → Bool
  | .withoutValue _ => true
  | .withValue _ => false

def describe : Changer σ α → String
  | .withValue _ => "Changer::WithValue"
  | .withoutValue _ => "Changer::NoValue"

end Changer

/-- The changes that are offered, by mode. -/
structure Changers (σ α : Type) where
  set : Option (Value α → Value α → σ → σ) := none
  add : Option (Value α → Value α → σ → σ) := none
  remove : Option (Value α → Value α → σ → σ) := none
  removeAll : Option (Value α → Value α → σ → σ) := none
  delete : Option (Value α → σ → σ) := none
  reset : Option (Value α → σ → σ) := none

namespace Changers

variable {σ α : Type}

def get? (c : Changers σ α) : ChangeMode → Option (Changer σ α)
  | .set => c.set.map .withValue
  | .add => c.add.map .withValue
  | .remove => c.remove.map .withValue
  | .removeAll => c.removeAll.map .withValue
  | .delete => c.delete.map .withoutValue
  | .reset => c.reset.map .withoutValue

def modes (c : Changers σ α) : List ChangeMode := ChangeMode.all.filter fun m => (c.get? m).isSome

end Changers

end Provision
