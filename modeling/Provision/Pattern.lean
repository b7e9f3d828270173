import Provision.Regex.Parser
import Provision.Regex.Size
import Provision.Text.Quoted

/-! # Identifier patterns

A pattern always matches a whole input. -/

namespace Provision

/-- How a pattern decides: by a list of words, or by a regular expression. -/
inductive Matcher
  | words (words : List String)
  | regex (r : Regex)

/-- A pattern for identifiers. Its source alone decides which pattern it is. -/
structure Pattern where
  source : String
  matcher : Matcher

structure InvalidPattern where
  source : String
  deriving DecidableEq

namespace Pattern

instance : BEq Pattern where
  beq a b := a.source == b.source

instance : ReflBEq Pattern where
  rfl {p} := beq_self_eq_true p.source

theorem beq_list_iff (xs ys : List Pattern) :
    (xs == ys) = true ↔ xs.map (·.source) = ys.map (·.source) := by
  induction xs generalizing ys with
  | nil => cases ys <;> simp
  | cons x xs ih =>
      cases ys with
      | nil => simp
      | cons y ys =>
          have hhead : (x == y) = (x.source == y.source) := rfl
          simp [ih, hhead]

/-! ## Making patterns -/

/-- The text from the first to the last character must match the source, which is set between
brackets as it stands. -/
def anchored (source : String) : List Char :=
  "^(?:".toList ++ source.toList ++ ")$".toList

/-- A source is a pattern if it writes a regular expression that is not too large. -/
def compile (source : String) : Except InvalidPattern Pattern :=
  match Regex.parse? (anchored source) with
  | some r => if r.fits then .ok ⟨source, .regex r⟩ else .error ⟨source⟩
  | none => .error ⟨source⟩

theorem source_of_compile {source : String} {p : Pattern} (h : compile source = .ok p) :
    p.source = source := by
  unfold compile at h
  split at h
  · split at h
    · obtain rfl := Except.ok.inj h
      rfl
    · cases h
  · cases h

/-- A source that matches `text` and nothing else. -/
def escape (text : String) : String :=
  .ofList (text.toList.flatMap fun c => if Regex.isMeta c then ['\\', c] else [c])

def literal (text : String) : Pattern :=
  ⟨escape text, .words [text]⟩

/-- The pattern of two words, or of one where they are equal. -/
def either (first second : String) : Pattern :=
  if first = second then literal first
  else ⟨escape first ++ "|" ++ escape second, .words [first, second]⟩

theorem either_of_eq {first second : String} (h : first = second) :
    either first second = literal first :=
  if_pos h

theorem either_of_ne {first second : String} (h : first ≠ second) :
    either first second = ⟨escape first ++ "|" ++ escape second, .words [first, second]⟩ :=
  if_neg h

/-! ## Using patterns -/

def accepts (p : Pattern) (input : String) : Bool :=
  match p.matcher with
  | .words words => words.contains input
  | .regex r => r.matchesWithin input.toList

theorem accepts_literal (text input : String) :
    (literal text).accepts input = true ↔ input = text := by
  simp [literal, accepts]

theorem accepts_either (first second input : String) :
    (either first second).accepts input = true ↔ input = first ∨ input = second := by
  by_cases same : first = second
  · rw [either_of_eq same, accepts_literal, same, or_self]
  · simp [either_of_ne same, accepts]

def describe (p : Pattern) : String :=
  "Pattern(" ++ Text.quote p.source ++ ")"

end Pattern

end Provision
