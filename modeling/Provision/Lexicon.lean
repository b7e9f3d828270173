import Provision.English
import Provision.Pattern
import Provision.TypeTree
import Provision.Unicode.Casing

/-! # Names that users give to types

Few types are named. The others go by the name of the closest type above them. -/

namespace Provision

structure Nouns where
  singular : String
  plural : String
  deriving DecidableEq

namespace Nouns

def toJson (n : Nouns) : Json :=
  .record [("singular", .ofString n.singular), ("plural", .ofString n.plural)]

def ofJson? (json : Json) : Option Nouns := do
  match ← json.parts? ["singular", "plural"] with
  | [some singular, some plural] => some ⟨← singular.text?, ← plural.text?⟩
  | _ => none

end Nouns

/-- How a type is named: a code word, its nouns, and the patterns that users may write for it. -/
structure Naming where
  code : String
  nouns : Nouns
  patterns : List Pattern

namespace Naming

def defaultPatterns (nouns : Nouns) : List Pattern :=
  [.either nouns.singular nouns.plural]

def new (code singular : String) : Naming :=
  let nouns : Nouns := ⟨singular, English.plural singular⟩
  ⟨code, nouns, defaultPatterns nouns⟩

/-- Changes the plural. Patterns that read like the default ones follow it. -/
def withPlural (n : Naming) (plural : String) : Naming :=
  let nouns := { n.nouns with plural }
  { n with
    nouns
    patterns := if n.patterns == defaultPatterns n.nouns then defaultPatterns nouns
      else n.patterns }

def withPatterns (n : Naming) (sources : List String) : Except InvalidPattern Naming := do
  let patterns ← sources.mapM Pattern.compile
  return { n with patterns }

def noun (n : Naming) (plural : Bool) : String :=
  if plural then n.nouns.plural else n.nouns.singular

end Naming

/-- The named types. A type is named at most once. -/
structure Lexicon where
  entries : List (TypeId × Naming) := []

namespace Lexicon

structure AlreadyNamed where
  code : String
  deriving DecidableEq

def AlreadyNamed.message (e : AlreadyNamed) : String :=
  "cannot name a type '" ++ e.code ++ "': it already has a named type"

def size (lex : Lexicon) : Nat := lex.entries.length

/-- The naming of this very type. -/
def naming? (lex : Lexicon) (id : TypeId) : Option Naming := lex.entries.lookup id

def register (lex : Lexicon) (id : TypeId) (naming : Naming) : Except AlreadyNamed Lexicon :=
  if (lex.naming? id).isSome then .error ⟨naming.code⟩
  else .ok ⟨lex.entries ++ [(id, naming)]⟩

/-- The naming of the closest type that has one, going up from `id`. -/
def nearest? (lex : Lexicon) (t : TypeTree) (id : TypeId) : Option Naming :=
  (t.ancestors id).findSome? lex.naming?

/-- The noun for a type in messages. An array is the plural of its elements, and a type without a
noun goes by its own name in lower case. -/
def displayName (lex : Lexicon) (t : TypeTree) (id : TypeId) (plural : Bool) : String :=
  match _h : t.component? id with
  | some c => lex.displayName t c true
  | none =>
    match lex.nearest? t id with
    | some naming => naming.noun plural
    | none =>
      let name := Unicode.lowercased (t.name id)
      if plural then English.plural name else name
termination_by id.toNat
decreasing_by exact TypeTree.component_toNat_lt ‹_›

end Lexicon

end Provision
