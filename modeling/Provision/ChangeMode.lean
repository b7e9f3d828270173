import Provision.Json.Basic

/-! # Ways to change a value -/

namespace Provision

inductive ChangeMode
  | set
  | add
  | remove
  | removeAll
  | delete
  | reset
  deriving DecidableEq

namespace ChangeMode

def all : List ChangeMode := [.set, .add, .remove, .removeAll, .delete, .reset]

def takesValue : ChangeMode → Bool
  | .delete | .reset => false
  | _ => true

def display : ChangeMode → String
  | .set => "set"
  | .add => "add"
  | .remove => "remove"
  | .removeAll => "remove all"
  | .delete => "delete"
  | .reset => "reset"

def describe : ChangeMode → String
  | .set => "Set"
  | .add => "Add"
  | .remove => "Remove"
  | .removeAll => "RemoveAll"
  | .delete => "Delete"
  | .reset => "Reset"

/-! ## Stored form -/

/-- The stored name, which has no blank. -/
def key : ChangeMode → String
  | .removeAll => "remove_all"
  | mode => mode.display

def ofKey? (key : String) : Option ChangeMode := all.find? (·.key == key)

def toJson (mode : ChangeMode) : Json := .ofString mode.key

def ofJson? (json : Json) : Option ChangeMode := json.alternative?.bind ofKey?

end ChangeMode

end Provision
