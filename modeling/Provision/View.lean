import Provision.Provider

/-! # Views of providers

A view shows a provider in contexts and as values of other types than its own. Views are put on
views; reading goes through them from the provider out, writing from the outside in. -/

namespace Provision

/-- A way to reach a provider: the provider itself, or another view seen in contexts and as values
of other types. Values are turned forward to be read and back to be written. -/
inductive View (σ α : Type)
  | direct (p : Provider σ α)
  | bridged (types : TypeSystem σ α) (contextType valueType : TypeId) (source : View σ α)
      (forward : Converter σ α) (reverse : Option (Converter σ α))

/-- Something that reading a view invokes, with what it is given. -/
inductive Invocation (σ α : Type)
  | getter (p : Provider σ α) (context : Value α)
  | converter (f : Converter σ α) (value : Value α)

def Invocation.result {σ α : Type} (s : σ) : Invocation σ α → Option (Value α)
  | .getter p context => p.getter s context
  | .converter f value => f s value

namespace View

variable {σ α : Type}

def contextType : View σ α → TypeId
  | .direct p => p.contextType
  | .bridged _ c _ _ _ _ => c

def valueType : View σ α → TypeId
  | .direct p => p.valueType
  | .bridged _ _ v _ _ _ => v

/-- The provider at the end. -/
def provider : View σ α → Provider σ α
  | .direct p => p
  | .bridged _ _ _ source _ _ => source.provider

def isBridged : View σ α → Bool
  | .direct _ => false
  | .bridged .. => true

def source? : View σ α → Option (View σ α)
  | .direct _ => none
  | .bridged _ _ _ source _ _ => some source

def hasReverse : View σ α → Bool
  | .direct _ => true
  | .bridged _ _ _ _ _ reverse => reverse.isSome

/-! ## Reading and writing -/

/-- Reads a view off a context, where `call` answers all invocations. These are given too, in their
order. A view passes on only contexts of its source's type. -/
def readBy (call : Invocation σ α → Option (Value α)) (context : Value α) :
    View σ α → Option (Value α) × List (Invocation σ α)
  | .direct p => (call (.getter p context), [.getter p context])
  | .bridged types _ _ source forward _ =>
    if context.isA types.tree source.contextType then
      match source.readBy call context with
      | (some value, made) =>
        (call (.converter forward value), made ++ [.converter forward value])
      | (none, made) => (none, made)
    else (none, [])

/-- Reads the value off a context in a state. -/
def get (s : σ) (context : Value α) (view : View σ α) : Option (Value α) :=
  (view.readBy (·.result s) context).1

theorem get_direct (s : σ) (context : Value α) (p : Provider σ α) :
    (direct p).get s context = p.getter s context := rfl

theorem get_bridged (s : σ) (context : Value α) (types : TypeSystem σ α)
    (contextType valueType : TypeId) (source : View σ α) (forward : Converter σ α)
    (reverse : Option (Converter σ α)) :
    (bridged types contextType valueType source forward reverse).get s context =
      if context.isA types.tree source.contextType then (source.get s context).bind (forward s)
      else none := by
  simp only [get, readBy]
  split
  · cases source.readBy (·.result s) context with
    | mk read made => cases read <;> rfl
  · rfl

/-- A view offers the changes of its provider. -/
def hasChanger (v : View σ α) (mode : ChangeMode) : Bool :=
  (v.provider.changers.get? mode).isSome

/-- The change of a mode, as seen through the view. It has no effect on contexts that are not of
the source's type, nor with values that cannot be turned back. -/
def changer? (mode : ChangeMode) : View σ α → Option (Changer σ α)
  | .direct p => p.changers.get? mode
  | .bridged types _ _ source _ reverse =>
    (source.changer? mode).map fun
      | .withoutValue change => .withoutValue fun context s =>
        if context.isA types.tree source.contextType then change context s else s
      | .withValue change => .withValue fun context value s =>
        if context.isA types.tree source.contextType then
          match reverse.bind fun back => back s value with
          | some turned => change context turned s
          | none => s
        else s

/-- The exclusions that matter in the view's contexts. -/
def excluded : View σ α → List TypeId
  | .direct p => p.excluded
  | .bridged types contextType _ source _ _ =>
    source.excluded.filter fun e => types.tree.subsumes contextType e

/-! ## Making views -/

/-- Shows a view in contexts and as values of the given types: itself where it fits already, else
bridged, if values can be converted. -/
def adapt? (types : TypeSystem σ α) (contextType valueType : TypeId) (source : View σ α) :
    Option (View σ α) :=
  if types.tree.subsumes source.contextType contextType &&
      types.tree.subsumes valueType source.valueType then
    some source
  else
    (types.between? source.valueType valueType).map fun forward =>
      .bridged types contextType valueType source forward
        (types.between? valueType source.valueType)

/-- Shows a view as other types. A bridge is not put on another: it starts from the same source. -/
def convert? (types : TypeSystem σ α) (contextType valueType : TypeId) :
    View σ α → Option (View σ α)
  | .direct p => adapt? types contextType valueType (.direct p)
  | .bridged _ _ _ source _ _ => adapt? types contextType valueType source

/-- Bridges a view with given conversions. A way back that is not given is looked up. -/
def convertWith (types : TypeSystem σ α) (contextType valueType : TypeId)
    (forward : Converter σ α) (reverse : Option (Converter σ α)) (source : View σ α) :
    View σ α :=
  .bridged types contextType valueType source forward
    (reverse <|> types.between? valueType source.valueType)

/-! ## Comparison and display -/

/-- Views are equal if they show equal providers as the same types at every step. -/
def equal : View σ α → View σ α → Bool
  | .direct p, .direct q => p == q
  | .bridged _ c v source _ _, .bridged _ c' v' source' _ _ =>
    c == c' && v == v' && source.equal source'
  | _, _ => false

instance : BEq (View σ α) := ⟨equal⟩

theorem equal_self (view : View σ α) : view.equal view = true := by
  induction view with
  | direct p => exact beq_self_eq_true p
  | bridged types contextType valueType source forward reverse ih => simp [equal, ih]

instance : ReflBEq (View σ α) where
  rfl {view} := view.equal_self

def describe : View σ α → String
  | .direct p => p.describe
  | .bridged _ contextType valueType source _ reverse =>
    "ConvertedDescriptor \x7b context_type: " ++ contextType.describe ++
      ", value_type: " ++ valueType.describe ++ ", source: " ++ source.describe ++
      ", has_reverse: " ++ (if reverse.isSome then "true" else "false") ++ ", .. \x7d"

end View

end Provision
