import Provision.Rank
import Provision.Resolution

/-! # One stage of a search

A stage goes through providers in order and keeps those that are closest, all of them if several
are equally close. One provider that must not be used ends the search. -/

namespace Provision

/-! ## Disambiguation -/

/-- Of several items, drops those that carry another identity than the requested one, unless that
would leave none. -/
def disambiguate {ι κ : Type} [BEq κ] (identity : ι → Option κ) (requested : Option κ)
    (items : List ι) : List ι :=
  if items.length ≤ 1 then items
  else
    let kept := items.filter fun item =>
      match identity item with
      | none => true
      | some id => requested == some id
    if kept.isEmpty then items else kept

/-! ## Stages -/

/-- Which providers a search looks at, how close each is, as what it is shown, and the value type
whose name decides among several. -/
structure Stage (σ α : Type) where
  admits : Provider σ α → Bool := fun _ => true
  rank : Provider σ α → Rank := fun _ => {}
  view? : Provider σ α → Option (View σ α) := fun p => some (.direct p)
  namedFor : Option TypeId := none

namespace Stage

variable {σ α : Type}

/-- Goes through providers with the best rank and its views so far. One that is admitted but does
not accept the context ends the search at once, with its message. -/
def scan (stage : Stage σ α) (t : TypeTree) (context : TypeId) :
    Option Rank → List (View σ α) → List (Provider σ α) → Except (Option String) (List (View σ α))
  | _, views, [] => .ok views
  | best, views, p :: rest =>
    if stage.admits p then
      match p.validate t context with
      | .excluded _ message => .error message
      | .rejected => .error none
      | .valid =>
        let rank := stage.rank p
        if best.any (·.before rank) then stage.scan t context best views rest
        else
          match stage.view? p with
          | none => stage.scan t context best views rest
          | some view =>
            if best == some rank then stage.scan t context best (views ++ [view]) rest
            else stage.scan t context (some rank) [view] rest
    else stage.scan t context best views rest

/-- Keeps the candidates that go by the name of the requested type or by none. -/
def disambiguateNamed (lex : Lexicon) (valueType : TypeId) (views : List (View σ α)) :
    List (View σ α) :=
  let code (id : TypeId) : Option String := (lex.naming? id).map (·.code)
  disambiguate (fun view => code view.provider.valueType) (code valueType) views

def run (stage : Stage σ α) (types : TypeSystem σ α) (context : TypeId)
    (providers : List (Provider σ α)) : Resolution σ α :=
  match stage.scan types.tree context none [] providers with
  | .error message => .refused message
  | .ok views =>
    match stage.namedFor with
    | some valueType => .found (disambiguateNamed types.lexicon valueType views)
    | none => .found views

/-! ## The stages of a search by type -/

section

variable (types : TypeSystem σ α) (context valueType : TypeId)

/-- Providers of exactly the value type, for the context's type or one above. -/
def exact : Stage σ α where
  admits p := types.tree.subsumes p.contextType context && p.valueType == valueType
  rank p := .ofContext types.tree context p.contextType
  namedFor := some valueType

/-- Providers of a narrower value type, in any related context. -/
def nearest : Stage σ α where
  admits p :=
    types.tree.related p.contextType context && types.tree.subsumes valueType p.valueType
  rank p := (Rank.ofContext types.tree context p.contextType).withValue
    (types.tree.distance? valueType p.valueType)
  view? p := (View.direct p).convert? types context valueType
  namedFor := some valueType

/-- Passes on only values of a type. -/
def narrow : Converter σ α := fun _ v => if v.isA types.tree valueType then some v else none

/-- Providers of a wider value type, whose values are passed on where they fit. -/
def narrowing : Stage σ α where
  admits p :=
    types.tree.related p.contextType context && types.tree.subsumes p.valueType valueType
  rank p := (Rank.ofContext types.tree context p.contextType).withValue
    (types.tree.distance? p.valueType valueType)
  view? p :=
    some ((View.direct p).convertWith types context valueType (narrow types valueType) none)
  namedFor := some valueType

/-- Providers of anything that can be converted. -/
def converting : Stage σ α where
  admits p := types.tree.related p.contextType context
  rank p := (Rank.ofContext types.tree context p.contextType).withValue
    (types.tree.distanceBetween? p.valueType valueType)
  view? p := (View.direct p).convert? types context valueType

end

/-! ## The stage of a search by identifier -/

/-- Providers that match an identifier, as what they provide. -/
def identified (types : TypeSystem σ α) (context : TypeId) (identifier : String) :
    Stage σ α where
  admits p := types.tree.related p.contextType context && p.matchesInput identifier
  rank p := .ofContext types.tree context p.contextType
  view? p := (View.direct p).convert? types context p.valueType

def firstConclusive (types : TypeSystem σ α) (context : TypeId) (providers : List (Provider σ α)) :
    List (Stage σ α) → Resolution σ α
  | [] => .empty
  | stage :: rest =>
    let result := stage.run types context providers
    if result.isConclusive then result else firstConclusive types context providers rest

end Stage

end Provision
