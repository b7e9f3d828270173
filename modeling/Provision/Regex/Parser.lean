import Provision.Regex.Meaning
import Provision.Regex.Token

/-! # Reading a pattern -/

namespace Provision.Regex

/-! ## Open groups -/

/-- What lies outside of an open group, with the kind of the group: the branches and items before
it, last first, and whether blanks were skipped there. -/
structure Outer where
  kind : GroupKind
  branches : List Expr
  items : List Expr
  spaced : Bool

/-- A pattern read so far: the groups that are open, the branches and items of the innermost,
last first, and the names of groups. -/
structure Partial where
  outer : List Outer := []
  branches : List Expr := []
  items : List Expr := []
  spaced : Bool := false
  names : List (List Char) := []

namespace Partial

def body (p : Partial) : Expr :=
  .alternation (.sequence p.items.reverse :: p.branches).reverse

/-- Adds a token. Only what is an expression can be repeated, no name is given twice, and a
closing bracket needs an open one. -/
def push? (p : Partial) : Token → Option Partial
  | .element e => some { p with items := e.expr :: p.items }
  | .bar => some { p with branches := .sequence p.items.reverse :: p.branches, items := [] }
  | .directive change =>
    some { p with
      items := .directive change :: p.items
      spaced := change.apply .ignoreSpace p.spaced }
  | .repeats least most =>
    match p.items with
    | [] => none
    | .directive _ :: _ => none
    | e :: items => some { p with items := .repeats e least most :: items }
  | .openGroup kind =>
    if kind.name?.any (· ∈ p.names) then none
    else some {
      outer := ⟨kind, p.branches, p.items, p.spaced⟩ :: p.outer
      spaced := kind.change.apply .ignoreSpace p.spaced
      names := kind.name?.toList ++ p.names }
  | .closeGroup =>
    match p.outer with
    | [] => none
    | around :: outer =>
      some {
        outer
        branches := around.branches
        items := .group around.kind p.body :: around.items
        spaced := around.spaced
        names := p.names }

def advance? (p : Partial) (text : List Char) : Option (Partial × List Char) := do
  let (token, left) ← readToken? p.spaced (skip p.spaced text)
  let p ← p.push? token
  some (p, left)

end Partial

/-! ## Patterns -/

/-- Reads tokens as far as there are any that can be added. -/
def readAhead : Nat → Partial → List Char → Partial × List Char
  | 0, p, text => (p, text)
  | fuel + 1, p, text =>
    match p.advance? text with
    | some (p, left) => readAhead fuel p left
    | none => (p, text)

def depthLimit : Nat := 250

def readExpr? (text : List Char) : Option Expr :=
  let (p, rest) := readAhead text.length {} text
  if (skip p.spaced rest).isEmpty && p.outer.isEmpty && p.body.depth ≤ depthLimit then some p.body
  else none

def parse? (text : List Char) : Option Regex := do
  let expr ← readExpr? text
  let (regex, _) ← expr.meaning? {}
  some regex

end Provision.Regex
