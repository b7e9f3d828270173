import Provision.Provider

/-! # Making providers

A draft becomes a provider of one type system, where its types must be known. -/

namespace Provision

/-- A provider to be: what is left out is filled in from the type system. -/
structure Draft (σ α : Type) where
  label : String := ""
  contextType : TypeId
  valueType : TypeId
  patterns : Option (List String) := none
  acceptsInput : String → Bool := fun _ => true
  acceptsContext : TypeTree → TypeId → Bool := fun _ _ => true
  getter : Option (Getter σ α) := none
  changers : Changers σ α := {}
  time : Time := .now
  excluded : List TypeId := []
  exclusionMessage : Option String := none

namespace Draft

variable {σ α : Type}

inductive Error
  | unknownType (id : TypeId)
  | missingGetter (context value : String)
  | invalidPattern (e : InvalidPattern)
  deriving DecidableEq

/-- The text of an error. A pattern's own error has none. -/
def Error.message : Error → String
  | .unknownType id => "descriptor references unknown type " ++ id.display
  | .missingGetter context value =>
    "descriptor for " ++ context ++ " -> " ++ value ++ " has no getter"
  | .invalidPattern _ => ""

/-! ## Default identifiers -/

/-- Whether an input is in the plural, for a noun whose two forms are known. -/
def isPlural (nouns : Nouns) (input : String) : Bool :=
  if input = nouns.singular then false
  else if input = nouns.plural then true
  else (English.splitPlural input).2

/-- The patterns for a value type, and which of the inputs they match are meant. A named type has
its own patterns for one value and for many, told apart by the plural. -/
def defaultPatterns (types : TypeSystem σ α) (valueType : TypeId) :
    List Pattern × (String → Bool) :=
  let many := types.tree.isArray valueType
  let element := (types.tree.component? valueType).getD valueType
  match types.lexicon.naming? element with
  | some naming => (naming.patterns, fun input => isPlural naming.nouns input == many)
  | none =>
    let name := Unicode.lowercased (types.tree.name element)
    ([.literal (if many then English.plural name else name)], fun _ => true)

/-! ## Building -/

def mentioned (d : Draft σ α) : List TypeId := d.contextType :: d.valueType :: d.excluded

/-- The patterns of a draft, and which inputs they are meant for. -/
def identifiers (d : Draft σ α) (types : TypeSystem σ α) :
    Except InvalidPattern (List Pattern × (String → Bool)) :=
  match d.patterns with
  | some sources => do return (← sources.mapM Pattern.compile, fun _ => true)
  | none => .ok (defaultPatterns types d.valueType)

/-- Makes the provider. Types are looked at first, then the getter, then the patterns. -/
def build (d : Draft σ α) (types : TypeSystem σ α) : Except Error (Provider σ α) :=
  match d.mentioned.find? fun id => !decide (types.tree.Known id) with
  | some id => .error (.unknownType id)
  | none =>
    match d.getter with
    | none =>
      .error (.missingGetter (types.tree.name d.contextType) (types.tree.name d.valueType))
    | some getter =>
      match d.identifiers types with
      | .error e => .error (.invalidPattern e)
      | .ok (patterns, meant) => .ok {
          label := d.label
          contextType := d.contextType
          valueType := d.valueType
          patterns
          acceptsInput := fun input => meant input && d.acceptsInput input
          acceptsContext := d.acceptsContext
          getter
          changers := d.changers
          time := d.time
          excluded := d.excluded
          exclusionMessage := d.exclusionMessage }

end Draft

end Provision
