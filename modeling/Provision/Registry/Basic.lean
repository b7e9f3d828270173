import Provision.Draft
import Provision.Resolution
import Provision.Settings

/-! # Registries of providers

A registry keeps providers by time, in the order of registration, and at most one in each slot.
Every change of its contents empties what it remembers. -/

namespace Provision

/-! ## What can be asked -/

/-- What is looked for: a type of values, or what users call them. -/
inductive Query
  | identifier (text : String)
  | type (id : TypeId)
  deriving DecidableEq

structure Request where
  context : TypeId
  query : Query
  time : Time
  flags : SearchFlags
  deriving DecidableEq

namespace Request

/-- The request without flags that have no meaning at its time. -/
def normalized (r : Request) : Request := { r with flags := r.flags.normalizedFor r.time }

/-- The request that is made where this one finds nothing at its own time. -/
def fallback? (r : Request) : Option Request :=
  if !r.time.isNow && r.flags.contains .fallback then
    some { r with time := .now }.normalized
  else none

end Request

/-! ## Buckets -/

/-- Providers by time, each in the order of registration. -/
structure Buckets (σ α : Type) where
  past : List (Provider σ α) := []
  now : List (Provider σ α) := []
  future : List (Provider σ α) := []

namespace Buckets

variable {σ α : Type}

def get (b : Buckets σ α) : Time → List (Provider σ α)
  | .past => b.past
  | .now => b.now
  | .future => b.future

def modify (b : Buckets σ α) (time : Time) (f : List (Provider σ α) → List (Provider σ α)) :
    Buckets σ α :=
  match time with
  | .past => { b with past := f b.past }
  | .now => { b with now := f b.now }
  | .future => { b with future := f b.future }

def toList (b : Buckets σ α) : List (Provider σ α) := b.past ++ b.now ++ b.future

end Buckets

/-! ## Registries -/

/-- Providers over one type system, and the results that are remembered. -/
structure Registry (σ α : Type) where
  types : TypeSystem σ α
  settings : Settings := {}
  buckets : Buckets σ α := {}
  cache : List (Request × Resolution σ α) := []

namespace Registry

variable {σ α : Type}

/-! ## Contents -/

def bucket (r : Registry σ α) (time : Time) : List (Provider σ α) := r.buckets.get time

def elements (r : Registry σ α) : List (Provider σ α) := r.buckets.toList

def size (r : Registry σ α) : Nat := r.elements.length

def isEmpty (r : Registry σ α) : Bool := r.elements.isEmpty

def perContext (r : Registry σ α) : List (TypeId × List (Provider σ α)) :=
  let contexts := (r.elements.map (·.contextType)).mergeSort fun a b => a.toNat ≤ b.toNat
  contexts.eraseDups.map fun c => (c, r.elements.filter (·.contextType == c))

def isRegistered (r : Registry σ α) (p : Provider σ α) : Bool :=
  (r.bucket p.time).any (·.sameSlot p)

def isRegisteredFor (r : Registry σ α) (context value : TypeId) (time : Time) : Bool :=
  (r.bucket time).any fun p => p.contextType == context && p.valueType == value

def cachedResolutions (r : Registry σ α) : Nat := r.cache.length

def clearCache (r : Registry σ α) : Registry σ α := { r with cache := [] }

/-! ## Registration -/

inductive Error
  | unknownType (id : TypeId)
  | duplicate (context value : String) (patterns : List String) (time : Time)
  deriving DecidableEq

def Error.message : Error → String
  | .unknownType id => "descriptor references unknown type " ++ id.display
  | .duplicate context _ patterns time =>
    "'" ++ context ++ "' already has a registered event value with the identifier patterns " ++
      Provider.describeList (patterns.map Text.quote) ++ " (time: " ++ time.display ++ ")"

/-- Adds a provider of known types whose slot is free at its time. What was remembered is
forgotten. -/
def register (r : Registry σ α) (p : Provider σ α) :
    Except Error (Provider σ α) × Registry σ α :=
  let tree := r.types.tree
  match [p.contextType, p.valueType].find? fun id => !decide (tree.Known id) with
  | some id => (.error (.unknownType id), r)
  | none =>
    if r.isRegistered p then
      (.error (.duplicate (tree.name p.contextType) (tree.name p.valueType)
        (p.patterns.map (·.source)) p.time), r)
    else
      let r := { r with buckets := r.buckets.modify p.time (· ++ [p]) }
      (.ok p, r.clearCache)

/-- Keeps all but what holds the slot of a provider at its time, and tells whether fewer are left.
If so, what was remembered is forgotten. -/
def unregister (r : Registry σ α) (p : Provider σ α) : Bool × Registry σ α :=
  let before := (r.bucket p.time).length
  let r := { r with buckets := r.buckets.modify p.time (·.filter fun q => !q.sameSlot p) }
  let removed := (r.bucket p.time).length != before
  (removed, if removed then r.clearCache else r)

/-! ## Display -/

def describe (r : Registry σ α) : String :=
  "EventValueRegistry \x7b past: " ++ toString (r.bucket .past).length ++
    ", now: " ++ toString (r.bucket .now).length ++
    ", future: " ++ toString (r.bucket .future).length ++
    ", cached: " ++ toString r.cachedResolutions ++
    ", config: " ++ r.settings.describe ++ ", .. \x7d"

end Registry

end Provision
