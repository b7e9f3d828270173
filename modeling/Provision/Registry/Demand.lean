import Provision.Registry.Search

/-! # Demanding one candidate

Where a search does not end in one candidate, users are told why in the nouns of the types. -/

namespace Provision

/-- Why there is no one candidate, in the words for users. -/
inductive Demand.Error
  | notFound (value context : String)
  | ambiguous (values value context : String)
  | excluded (message : String)
  deriving DecidableEq

namespace Demand

def Error.message : Error → String
  | .notFound value context => "there's no " ++ value ++ " in " ++ context ++ " event"
  | .ambiguous values value context =>
    "there are multiple " ++ values ++ " in " ++ context ++
      " event; you must define which " ++ value ++ " to use"
  | .excluded message => message

/-- What is said of a refusal that has no message. -/
def refusal : String := "this value can't be used here"

end Demand

variable {σ α : Type}

def Resolution.demand (result : Resolution σ α) (types : TypeSystem σ α)
    (context valueType : TypeId) : Except Demand.Error (View σ α) :=
  let contextName := English.withArticle (types.displayName context false)
  let one := types.displayName valueType false
  match result.unique with
  | .ok view => .ok view
  | .error .refused => .error (.excluded (result.message?.getD Demand.refusal))
  | .error .empty => .error (.notFound one contextName)
  | .error (.multiple _) =>
    .error (.ambiguous (types.displayName valueType true) one contextName)

/-- Finds the one candidate under the default flags. What is ambiguous or refused without
conversions stays so, whatever conversions would find. -/
def Registry.require (r : Registry σ α) (context valueType : TypeId) (time : Time) :
    Except Demand.Error (View σ α) × Registry σ α :=
  let flags := r.settings.defaultFlags
  let (strict, r) := r.resolve ⟨context, .type valueType, time, flags.without .conversion⟩
  if strict.isMultiple || strict.isRefused then
    (strict.demand r.types context valueType, r)
  else
    let (result, r) := r.resolve ⟨context, .type valueType, time, flags⟩
    (result.demand r.types context valueType, r)

end Provision
