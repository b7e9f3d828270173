import Provision.Registry.Basic
import Provision.Stage

/-! # Searching a registry

`answer` says what a request yields. `resolve` yields the same and remembers it, so that a request
is worked out once until the registry changes. -/

namespace Provision.Registry

variable {σ α : Type}

/-! ## Answers -/

/-- The stages that a query goes through, from the strictest on. -/
def stages (r : Registry σ α) (request : Request) : List (Stage σ α) :=
  match request.query with
  | .identifier text => [.identified r.types request.context text]
  | .type valueType =>
    [.exact r.types request.context valueType, .nearest r.types request.context valueType] ++
      if request.flags.contains .conversion then
        [.narrowing r.types request.context valueType,
          .converting r.types request.context valueType]
      else []

def answerAtTime (r : Registry σ α) (request : Request) : Resolution σ α :=
  Stage.firstConclusive r.types request.context (r.bucket request.time) (r.stages request)

/-- What a request yields, without memory. -/
def answer (r : Registry σ α) (request : Request) : Resolution σ α :=
  let request := request.normalized
  let result := r.answerAtTime request
  if result.isConclusive then result
  else
    match request.fallback? with
    | some next => r.answerAtTime next
    | none => .empty

/-! ## Remembered answers -/

def remembered? (r : Registry σ α) (request : Request) : Option (Resolution σ α) :=
  if r.settings.cacheResolutions then r.cache.lookup request else none

def remember (r : Registry σ α) (request : Request) (result : Resolution σ α) : Registry σ α :=
  if r.settings.cacheResolutions then
    { r with cache := (request, result) :: r.cache.filter (·.1 != request) }
  else r

/-- Answers a request from memory, or by `compute`, whose result is kept. -/
def answerOnce (r : Registry σ α) (request : Request)
    (compute : Registry σ α → Resolution σ α × Registry σ α) : Resolution σ α × Registry σ α :=
  match r.remembered? request with
  | some result => (result, r)
  | none =>
    let (result, r) := compute r
    (result, r.remember request result)

/-- Answers a request. Where it falls back, that second request is remembered too. -/
def resolve (r : Registry σ α) (request : Request) : Resolution σ α × Registry σ α :=
  let request := request.normalized
  r.answerOnce request fun r =>
    let result := r.answerAtTime request
    if result.isConclusive then (result, r)
    else
      match request.fallback? with
      | some next => r.answerOnce next fun r => (r.answerAtTime next, r)
      | none => (.empty, r)

def resolveNow (r : Registry σ α) (context : TypeId) (query : Query) :
    Resolution σ α × Registry σ α :=
  r.resolve ⟨context, query, .now, r.settings.defaultFlags⟩

/-- Answers a query by type from the exact stage alone, without memory. -/
def resolveExact (r : Registry σ α) (context valueType : TypeId) (time : Time) :
    Resolution σ α :=
  (Stage.exact r.types context valueType).run r.types context (r.bucket time)

/-! ## Questions -/

/-- Whether past or future values are found without falling back. -/
def hasTimeStates (r : Registry σ α) (context valueType : TypeId) : Bool × Registry σ α :=
  let flags := r.settings.defaultFlags.without .fallback
  let (past, r) := r.resolve ⟨context, .type valueType, .past, flags⟩
  if past.isSuccessful then (true, r)
  else
    let (future, r) := r.resolve ⟨context, .type valueType, .future, flags⟩
    (future.isSuccessful, r)

def hasExactTimeStates (r : Registry σ α) (context valueType : TypeId) : Bool :=
  [Time.past, Time.future].any fun time => (r.resolveExact context valueType time).isSuccessful

/-- Reads a value of a type off a context, by the first candidate for the context's own type. -/
def valueOf (r : Registry σ α) (s : σ) (context : Value α) (valueType : TypeId) (time : Time) :
    Option (Value α) × Registry σ α :=
  let (result, r) := r.resolve ⟨context.type, .type valueType, time, r.settings.defaultFlags⟩
  (result.any?.bind (·.get s context), r)

end Provision.Registry
