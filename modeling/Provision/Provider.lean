import Provision.Changer
import Provision.Time
import Provision.TypeSystem

/-! # Providers of values

A provider is what is registered: which values it provides in which contexts, what users call
them, how they are read and changed, and where it must not be used. -/

namespace Provision

abbrev Getter (σ α : Type) := σ → Value α → Option (Value α)

/-- Provides a value of one type in contexts of another. The label is for listings; no rule looks
at it. -/
structure Provider (σ α : Type) where
  label : String
  contextType : TypeId
  valueType : TypeId
  patterns : List Pattern
  acceptsInput : String → Bool
  acceptsContext : TypeTree → TypeId → Bool
  getter : Getter σ α
  changers : Changers σ α
  time : Time
  excluded : List TypeId
  exclusionMessage : Option String

inductive Validation
  | valid
  | excluded (type : TypeId) (message : Option String)
  | rejected
  deriving DecidableEq

namespace Validation

def isValid (v : Validation) : Bool := v = .valid

def kind : Validation → String
  | .valid => "valid"
  | .excluded .. => "excluded"
  | .rejected => "rejected"

end Validation

namespace Provider

variable {σ α : Type}

/-! ## Contexts and identifiers -/

/-- The first exclusion that covers the context counts before the provider's own judgement. -/
def validate (p : Provider σ α) (t : TypeTree) (context : TypeId) : Validation :=
  match p.excluded.find? fun e => t.subsumes e context with
  | some e => .excluded e p.exclusionMessage
  | none => if p.acceptsContext t context then .valid else .rejected

section

variable {p : Provider σ α} {t : TypeTree} {context : TypeId}

theorem validate_of_covered (h : (p.excluded.any fun e => t.subsumes e context) = true) :
    ∃ e, p.validate t context = .excluded e p.exclusionMessage := by
  have hfind := List.find?_isSome.mpr (List.any_eq_true.mp h)
  obtain ⟨e, he⟩ := Option.isSome_iff_exists.mp hfind
  exact ⟨e, by simp [validate, he]⟩

theorem validate_of_uncovered (h : (p.excluded.any fun e => t.subsumes e context) = false) :
    p.validate t context = if p.acceptsContext t context then .valid else .rejected := by
  have hfind : (p.excluded.find? fun e => t.subsumes e context) = none := by simpa using h
  simp [validate, hfind]

end

def matchesInput (p : Provider σ α) (input : String) : Bool :=
  p.patterns.any (·.accepts input) && p.acceptsInput input

/-! ## Comparison -/

/-- Whether two providers compete for one place: same types and same patterns. -/
def sameSlot (a b : Provider σ α) : Bool :=
  a.contextType == b.contextType && a.valueType == b.valueType && a.patterns == b.patterns

instance : BEq (Provider σ α) where
  beq a b := a.sameSlot b && a.time == b.time

instance : ReflBEq (Provider σ α) where
  rfl {p} := by
    change (p.sameSlot p && p.time == p.time) = true
    simp [sameSlot]

/-! ## Display -/

def describeList (items : List String) : String := "[" ++ ", ".intercalate items ++ "]"

def describe (p : Provider σ α) : String :=
  "ValueDescriptor \x7b context_type: " ++ p.contextType.describe ++
    ", value_type: " ++ p.valueType.describe ++
    ", identifier_patterns: " ++ describeList (p.patterns.map (·.describe)) ++
    ", time: " ++ p.time.describe ++
    ", changers: " ++ describeList (p.changers.modes.map (·.describe)) ++
    ", excluded_contexts: " ++ describeList (p.excluded.map (·.describe)) ++ ", .. \x7d"

end Provider

end Provision
