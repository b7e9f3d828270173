import Provision.Converters
import Provision.Lexicon

/-! # Type systems -/

namespace Provision

/-- Types, their names and the conversions between them. -/
structure TypeSystem (σ α : Type) where
  tree : TypeTree := .initial
  lexicon : Lexicon := {}
  conversion : Conversion σ α := .registered {}

namespace TypeSystem

variable {σ α : Type}

def converter? (types : TypeSystem σ α) (source target : TypeId) : Option (Converter σ α) :=
  types.conversion.find? types.tree source target

/-- The conversion by which values are shown as another type. There is nothing to do if every
`source` is a `target`, whatever the type system has for them. -/
def between? (types : TypeSystem σ α) (source target : TypeId) : Option (Converter σ α) :=
  if types.tree.subsumes target source then some .identity else types.converter? source target

def displayName (types : TypeSystem σ α) (id : TypeId) (plural : Bool) : String :=
  types.lexicon.displayName types.tree id plural

def describe (types : TypeSystem σ α) : String :=
  "TypeSystem \x7b type_count: " ++ toString types.tree.size ++ ", named_count: " ++
    toString types.lexicon.size ++ ", .. \x7d"

end TypeSystem

end Provision
