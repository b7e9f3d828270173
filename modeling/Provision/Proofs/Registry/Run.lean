import Provision.Registry.Demand

/-! # Runs of a registry

A registry starts empty and is told and asked one thing after the other. -/

namespace Provision

inductive Operation (σ α : Type)
  | register (p : Provider σ α)
  | unregister (p : Provider σ α)
  | resolve (request : Request)
  | resolveNow (context : TypeId) (query : Query)
  | require (context valueType : TypeId) (time : Time)
  | valueOf (s : σ) (context : Value α) (valueType : TypeId) (time : Time)
  | hasTimeStates (context valueType : TypeId)
  | clearCache

inductive Reply (σ α : Type)
  | registered (result : Except Registry.Error (Provider σ α))
  | unregistered (removed : Bool)
  | resolved (result : Resolution σ α)
  | demanded (result : Except Demand.Error (View σ α))
  | value (value? : Option (Value α))
  | timeStates (found : Bool)
  | cleared

namespace Registry

variable {σ α : Type}

def new (types : TypeSystem σ α) (settings : Settings) : Registry σ α := { types, settings }

def step (r : Registry σ α) : Operation σ α → Reply σ α × Registry σ α
  | .register p =>
    let (result, r) := r.register p
    (.registered result, r)
  | .unregister p =>
    let (removed, r) := r.unregister p
    (.unregistered removed, r)
  | .resolve request =>
    let (result, r) := r.resolve request
    (.resolved result, r)
  | .resolveNow context query =>
    let (result, r) := r.resolveNow context query
    (.resolved result, r)
  | .require context valueType time =>
    let (result, r) := r.require context valueType time
    (.demanded result, r)
  | .valueOf s context valueType time =>
    let (value?, r) := r.valueOf s context valueType time
    (.value value?, r)
  | .hasTimeStates context valueType =>
    let (found, r) := r.hasTimeStates context valueType
    (.timeStates found, r)
  | .clearCache => (.cleared, r.clearCache)

/-- Operations one after the other, with what the registry says to each. -/
def run (r : Registry σ α) : List (Operation σ α) → List (Reply σ α) × Registry σ α
  | [] => ([], r)
  | op :: ops =>
    let (reply, r) := r.step op
    let (replies, r) := r.run ops
    (reply :: replies, r)

theorem run_cons (r : Registry σ α) (op : Operation σ α) (ops : List (Operation σ α)) :
    r.run (op :: ops) =
      ((r.step op).1 :: ((r.step op).2.run ops).1, ((r.step op).2.run ops).2) := rfl

theorem run_append (r : Registry σ α) (ops more : List (Operation σ α)) :
    (r.run (ops ++ more)).2 = ((r.run ops).2.run more).2 := by
  induction ops generalizing r with
  | nil => rfl
  | cons op ops ih =>
      rw [List.cons_append, run_cons, run_cons]
      exact ih _

/-- The registries that operations lead to from a registry without contents. -/
def Reachable (r : Registry σ α) : Prop :=
  ∃ types settings ops, ((new types settings).run ops).2 = r

theorem Reachable.step {r : Registry σ α} (h : r.Reachable) (op : Operation σ α) :
    (r.step op).2.Reachable := by
  obtain ⟨types, settings, ops, rfl⟩ := h
  exact ⟨types, settings, ops ++ [op], run_append _ ops [op]⟩

theorem Reachable.register {r grown : Registry σ α} {p : Provider σ α}
    {result : Except Error (Provider σ α)} (h : r.Reachable)
    (registered : r.register p = (result, grown)) : grown.Reachable := by
  have hstep := h.step (.register p)
  rwa [Registry.step, registered] at hstep

theorem Reachable.unregister {r : Registry σ α} (h : r.Reachable) (p : Provider σ α) :
    (r.unregister p).2.Reachable := h.step (.unregister p)

/-- What holds of a registry without contents and is kept by each operation holds after every
run. -/
theorem Reachable.invariant {Holds : Registry σ α → Prop} {r : Registry σ α} (h : r.Reachable)
    (start : ∀ types settings, Holds (new types settings))
    (kept : ∀ r op, Holds r → Holds (r.step op).2) : Holds r := by
  obtain ⟨types, settings, ops, rfl⟩ := h
  have hrun : ∀ (ops : List (Operation σ α)) (r : Registry σ α), Holds r → Holds (r.run ops).2 := by
    intro ops
    induction ops with
    | nil =>
        intro r hr
        exact hr
    | cons op ops ih =>
        intro r hr
        rw [run_cons]
        exact ih _ (kept r op hr)
  exact hrun ops _ (start types settings)

/-! ## Small registries -/

/-- A provider of everything everywhere, without conditions. -/
instance : Inhabited (Provider σ α) :=
  ⟨{
    label := ""
    contextType := .root
    valueType := .root
    patterns := []
    acceptsInput := fun _ => true
    acceptsContext := fun _ _ => true
    getter := fun _ _ => none
    changers := {}
    time := .now
    excluded := []
    exclusionMessage := none }⟩

/-- The type of arrays of everything, the only one below the root in `ofArrays`. -/
def arrays : TypeId := .ofNat 1

/-- A registry over the root and its arrays, which is told of providers one after the other. -/
def ofArrays (providers : List (Provider Unit Unit)) : Registry Unit Unit :=
  ((new { tree := (TypeTree.initial.arrayOf .root).1 } {}).run (providers.map .register)).2

theorem ofArrays_reachable (providers : List (Provider Unit Unit)) :
    (ofArrays providers).Reachable := ⟨_, _, _, rfl⟩

/-- A registry that is told of providers one after the other. -/
def ofProviders (types : TypeSystem σ α) (providers : List (Provider σ α)) : Registry σ α :=
  ((new types {}).run (providers.map .register)).2

theorem ofProviders_reachable (types : TypeSystem σ α) (providers : List (Provider σ α)) :
    (ofProviders types providers).Reachable := ⟨_, _, _, rfl⟩

def texts : TypeId := .ofNat 2

def numbers : TypeId := .ofNat 3

/-- The root, its arrays, texts and numbers. Texts are converted to numbers, and nothing back. -/
def oneWay : TypeSystem Unit Unit where
  tree :=
    let t := (TypeTree.initial.arrayOf .root).1
    ["Text", "Number"].foldl (fun t name => (t.define name .root).1) t
  conversion := .registered <|
    ({} : Converters Unit Unit).register texts numbers fun _ _ => some ⟨numbers, ()⟩

/-- A text of arrays, which can be set. -/
def message : Provider Unit Unit := {
  (default : Provider Unit Unit) with
  contextType := arrays
  valueType := texts
  getter := fun _ _ => some ⟨texts, ()⟩
  changers := { set := some fun _ _ s => s } }

def messages : Registry Unit Unit := ofProviders oneWay [message]

end Registry

end Provision
