import Provision.TypeTree

/-! # Values

A value carries its type at run time, which may be narrower than the type it was announced as. -/

namespace Provision

/-- A value: its type, and a payload that only its users look into. -/
structure Value (α : Type) where
  type : TypeId
  payload : α

namespace Value

variable {α : Type}

def isA (v : Value α) (t : TypeTree) (id : TypeId) : Bool := t.subsumes id v.type

def describe (v : Value α) : String :=
  "Value \x7b type_key: " ++ v.type.describe ++ ", .. \x7d"

end Value

end Provision
