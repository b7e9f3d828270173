import Provision.View

/-! # Views on views

However views are put on each other, a context has to pass every bridge. What is read is turned by
one bridge after the other from the provider out, and what is written from the outside in. -/

namespace Provision

variable {σ α : Type}

/-! ## Bridges -/

/-- One bridge of a view: the contexts that it passes on, by the type of its source in its own tree,
and its conversions. -/
structure Bridge (σ α : Type) where
  tree : TypeTree
  contextType : TypeId
  forward : Converter σ α
  reverse : Option (Converter σ α)

namespace Bridge

def passes (b : Bridge σ α) (context : Value α) : Bool := context.isA b.tree b.contextType

/-- Turns a value back, if there is a way back and it leads somewhere. -/
def back? (b : Bridge σ α) (s : σ) (value : Value α) : Option (Value α) :=
  b.reverse.bind fun back => back s value

end Bridge

namespace View

/-- The bridges of a view, the outermost first. -/
def bridges : View σ α → List (Bridge σ α)
  | .direct _ => []
  | .bridged types _ _ source forward reverse =>
    ⟨types.tree, source.contextType, forward, reverse⟩ :: source.bridges

def passes (view : View σ α) (context : Value α) : Bool :=
  view.bridges.all (·.passes context)

/-- What a value of the provider is seen as: every bridge turns it forward, the innermost first. -/
def shown? (view : View σ α) (s : σ) (value : Value α) : Option (Value α) :=
  view.bridges.foldrM (fun b v => b.forward s v) value

/-- What a value is written as: every bridge turns it back, the outermost first. -/
def written? (view : View σ α) (s : σ) (value : Value α) : Option (Value α) :=
  view.bridges.foldlM (fun v b => b.back? s v) value

section

variable (p : Provider σ α) (types : TypeSystem σ α) (contextType valueType : TypeId)
  (source : View σ α) (forward : Converter σ α) (reverse : Option (Converter σ α)) (s : σ)
  (context value : Value α)

@[simp] theorem passes_direct : (direct p).passes context = true := rfl

@[simp] theorem passes_bridged :
    (bridged types contextType valueType source forward reverse).passes context =
      (context.isA types.tree source.contextType && source.passes context) := rfl

@[simp] theorem shown?_direct : (direct p).shown? s = some := rfl

@[simp] theorem shown?_bridged :
    (bridged types contextType valueType source forward reverse).shown? s =
      fun value => (source.shown? s value).bind (forward s) := by
  funext value
  simp [shown?, bridges, List.foldrM_cons, bind]

@[simp] theorem written?_direct : (direct p).written? s value = some value := rfl

@[simp] theorem written?_bridged :
    (bridged types contextType valueType source forward reverse).written? s value =
      (reverse.bind fun back => back s value).bind (source.written? s) := rfl

end

/-! ## Reading -/

theorem get_eq (view : View σ α) (s : σ) (context : Value α) :
    view.get s context =
      if view.passes context then (view.provider.getter s context).bind (view.shown? s)
      else none := by
  induction view with
  | direct p => simp [get_direct, provider]
  | bridged types contextType valueType source forward reverse ih =>
      simp only [get_bridged, ih, provider, passes_bridged, Bool.and_eq_true]
      by_cases hcontext : context.isA types.tree source.contextType = true
      · by_cases hsource : source.passes context = true
        · simp [hcontext, hsource, Option.bind_assoc]
        · simp [hcontext, hsource]
      · simp [hcontext]

/-! ## Changing -/

/-- A change of the provider, as it is seen through a view. -/
def through (view : View σ α) : Changer σ α → Changer σ α
  | .withoutValue change => .withoutValue fun context s =>
    if view.passes context then change context s else s
  | .withValue change => .withValue fun context value s =>
    if view.passes context then
      match view.written? s value with
      | some written => change context written s
      | none => s
    else s

theorem through_direct (p : Provider σ α) : (direct p).through = id := by
  funext c
  cases c <;> rfl

theorem changer?_eq (view : View σ α) (mode : ChangeMode) :
    view.changer? mode = (view.provider.changers.get? mode).map view.through := by
  induction view with
  | direct p => simp [changer?, provider, through_direct]
  | bridged types contextType valueType source forward reverse ih =>
      simp only [changer?, provider, ih, Option.map_map]
      congr 1
      funext c
      cases c with
      | withoutValue change =>
          simp only [Function.comp_apply, through, passes_bridged, Bool.and_eq_true]
          congr 1
          funext context s
          by_cases hcontext : context.isA types.tree source.contextType = true <;> simp [hcontext]
      | withValue change =>
          simp only [Function.comp_apply, through, passes_bridged, Bool.and_eq_true,
            written?_bridged]
          congr 1
          funext context value s
          by_cases hcontext : context.isA types.tree source.contextType = true
          · cases reverse.bind fun back => back s value <;> simp [hcontext]
          · simp [hcontext]

/-- A view offers the changes of its provider. One that is made through it is made once by the
provider, for the same context and with what the given value is written as, or not at all: every
bridge has to pass the context on, and a value that is needed has to be given and to get through. -/
theorem change_reaches_provider (view : View σ α) (mode : ChangeMode) :
    ((view.changer? mode).isSome = true ↔ (view.provider.changers.get? mode).isSome = true) ∧
    ∀ changer, view.changer? mode = some changer →
      ∀ (context : Value α) (given : Option (Value α)) (s : σ),
        (∀ change, view.provider.changers.get? mode = some (.withoutValue change) →
          (changer.apply context given s).2 =
            if view.passes context then change context s else s) ∧
        ∀ change, view.provider.changers.get? mode = some (.withValue change) →
          (changer.apply context given s).2 =
            if view.passes context then
              match given.bind (view.written? s) with
              | some written => change context written s
              | none => s
            else s := by
  rw [changer?_eq]
  refine ⟨by simp, ?_⟩
  intro changer hchanger context given s
  constructor
  · intro change hchange
    rw [hchange] at hchanger
    obtain rfl := Option.some.inj hchanger
    rfl
  · intro change hchange
    rw [hchange] at hchanger
    obtain rfl := Option.some.inj hchanger
    cases given with
    | none => simp [through, Changer.apply]
    | some value => simp [through, Changer.apply]

/-! ## Reading what was written -/

/-- What was set through a view is read off it again, if the value is written as one that is shown
as the same, and the provider keeps what it is set to. -/
theorem get_after_set (view : View σ α) (context value written : Value α) (s : σ)
    (change : Value α → Value α → σ → σ) (settable : view.provider.changers.set = some change)
    (passes : view.passes context = true) (back : view.written? s value = some written)
    (forth : view.shown? (change context written s) written = some value)
    (kept : view.provider.getter (change context written s) context = some written) :
    ∃ changer, view.changer? .set = some changer ∧
      view.get (changer.apply context (some value) s).2 context = some value := by
  refine ⟨view.through (.withValue change), ?_, ?_⟩
  · simp [changer?_eq, Changers.get?, settable]
  · have hset : ((view.through (.withValue change)).apply context (some value) s).2 =
        change context written s := by
      simp [through, Changer.apply, passes, back]
    rw [hset, get_eq, if_pos passes, kept]
    exact forth

/-! ## A view of two bridges -/

section

def arrayTypes : TypeSystem (List Int) Int := { tree := (TypeTree.initial.arrayOf .root).1 }

def anArray : Value Int := ⟨.ofNat 1, 0⟩

/-- Tells the number that it was set to last, in arrays. All others are kept behind it. -/
def gauge : Provider (List Int) Int where
  label := "gauge"
  contextType := .ofNat 1
  valueType := .root
  patterns := []
  acceptsInput := fun _ => true
  acceptsContext := fun _ _ => true
  getter := fun s _ => s.head?.map fun n => ⟨.root, n⟩
  changers := { set := some fun _ value s => value.payload :: s }
  time := .now
  excluded := []
  exclusionMessage := none

/-- Shows twice what is one more than the number of the gauge. -/
def scaledGauge : View (List Int) Int :=
  let shifted := (direct gauge).convertWith arrayTypes .root .root
    (fun _ v => some { v with payload := v.payload + 1 })
    (some fun _ v => some { v with payload := v.payload - 1 })
  shifted.convertWith arrayTypes .root .root
    (fun _ v => some { v with payload := 2 * v.payload })
    (some fun _ v => if v.payload % 2 = 0 then some { v with payload := v.payload / 2 } else none)

/-- Setting eight sets the gauge to three, once. An odd number, no number, or a context that is no
array leave it alone. -/
theorem scaledGauge_set_reaches_gauge :
    ∃ changer, scaledGauge.changer? .set = some changer ∧
      (changer.apply anArray (some ⟨.root, 8⟩) [5]).2 = [3, 5] ∧
      (changer.apply anArray (some ⟨.root, 7⟩) [5]).2 = [5] ∧
      (changer.apply anArray none [5]).2 = [5] ∧
      (changer.apply ⟨.root, 0⟩ (some ⟨.root, 8⟩) [5]).2 = [5] := by
  have hpasses : scaledGauge.passes anArray = true := by decide +kernel
  have hstops : scaledGauge.passes ⟨.root, 0⟩ = false := by decide +kernel
  obtain ⟨hoffered, hchange⟩ := change_reaches_provider scaledGauge .set
  obtain ⟨changer, hchanger⟩ := Option.isSome_iff_exists.mp (hoffered.mpr rfl)
  have happly (context : Value Int) (given : Option (Value Int)) :=
    (hchange changer hchanger context given [5]).2 _ rfl
  refine ⟨changer, hchanger, ?_, ?_, ?_, ?_⟩
  · rw [happly, if_pos hpasses]
    rfl
  · rw [happly, if_pos hpasses]
    rfl
  · rw [happly, if_pos hpasses]
    rfl
  · rw [happly, hstops]
    rfl

/-- Eight is read again after it was set, though the gauge has three. -/
theorem scaledGauge_get_after_set :
    ∃ changer, scaledGauge.changer? .set = some changer ∧
      scaledGauge.get (changer.apply anArray (some ⟨.root, 8⟩) [5]).2 anArray =
        some ⟨.root, 8⟩ := by
  have hpasses : scaledGauge.passes anArray = true := by decide +kernel
  exact get_after_set scaledGauge anArray ⟨.root, 8⟩ ⟨.root, 3⟩ [5] _ rfl hpasses rfl rfl rfl

end

end View

end Provision
