import Provision.Regex.Basic
import Provision.Regex.Expr
import Provision.Unicode.Casing

/-! # Meaning of a written expression

Flags are taken in as the expression is walked, and are gone in the result. -/

namespace Provision.Regex

open Unicode

/-! ## Character classes -/

def Flags.shorthand (flags : Flags) : Shorthand → Ranges
  | .digit => if flags.unicode then GeneralCategory.decimalNumber else asciiDigit
  | .space => if flags.unicode then Property.whiteSpace else asciiSpace
  | .word => if flags.unicode then Property.word else asciiWord

/-- The characters that a member differs from at most in case. -/
def Flags.closeUnderCase (flags : Flags) (set : Ranges) : Ranges :=
  if !flags.ignoreCase then set
  else set.closeUnder (if flags.unicode then folds else asciiFolds)

/-- The complement. Without the Unicode flag a class speaks of bytes, and the bytes outside of it
need not make up a character, so there it has none. -/
def Flags.complement? (flags : Flags) (negated : Bool) (set : Ranges) : Option Ranges :=
  if !negated then some set
  else if flags.unicode then some set.complement
  else none

def ClassOp.combine (op : ClassOp) (left right : Ranges) : Ranges :=
  match op with
  | .intersection => left ∩ right
  | .difference => left \ right
  | .symmetricDifference => left.symmetricDifference right

def CharClass.members? (flags : Flags) : CharClass → Option Ranges
  | .none => some .empty
  | .single c => if flags.unicode || c.toNat < 128 then some (.single c) else Option.none
  | .range first last =>
    if flags.unicode || last.toNat < 128 then some (.between first last) else Option.none
  | .shorthand kind negated => flags.complement? negated (flags.shorthand kind)
  | .property members negated =>
    if flags.unicode then flags.complement? negated (flags.closeUnderCase members)
    else Option.none
  | .ascii members negated => flags.complement? negated (flags.closeUnderCase members)
  | .union first rest => do
    let first ← first.members? flags
    let rest ← rest.members? flags
    some (first ∪ rest)
  | .op kind left right => do
    let left ← left.members? flags
    let right ← right.members? flags
    some (kind.combine (flags.closeUnderCase left) (flags.closeUnderCase right))
  | .bracket body negated => do
    let body ← body.members? flags
    flags.complement? negated (flags.closeUnderCase body)

/-! ## Single characters and places -/

def Flags.dot? (flags : Flags) : Option Ranges :=
  if !flags.unicode then none
  else if flags.dotMatchesLineFeed then some .all
  else if flags.carriageReturn then some (.ofCodes [0x0a, 0x0d] : Ranges).complement
  else some (.single '\n' : Ranges).complement

/-- The characters that a literal stands for. A byte above the ASCII range is no character. -/
def Flags.literal? (flags : Flags) (c : Char) (byte : Bool) : Option Ranges :=
  if !flags.unicode && byte && 128 ≤ c.toNat then none
  else some (flags.closeUnderCase (.single c))

def Flags.holds (flags : Flags) (kind : Assertion) (before after : Option Char) : Bool :=
  let inWordBefore := before.any (flags.shorthand .word).contains
  let inWordAfter := after.any (flags.shorthand .word).contains
  match kind with
  | .startText => before == none
  | .endText => after == none
  | .startLine =>
    before == none || flags.multiLine &&
      (before == some '\n' || flags.carriageReturn && before == some '\r' && after != some '\n')
  | .endLine =>
    after == none || flags.multiLine &&
      (if flags.carriageReturn then
        after == some '\r' || after == some '\n' && before != some '\r'
      else after == some '\n')
  | .wordBoundary => inWordBefore != inWordAfter
  | .notWordBoundary => inWordBefore == inWordAfter
  | .wordStart => !inWordBefore && inWordAfter
  | .wordEnd => inWordBefore && !inWordAfter
  | .wordStartHalf => !inWordBefore
  | .wordEndHalf => !inWordAfter

/-! ## Expressions -/

/-- The regular expression that is meant, and the flags that hold behind it. -/
def Expr.meaning? (flags : Flags) : Expr → Option (Regex × Flags)
  | .empty => some (.empty, flags)
  | .literal c byte => (flags.literal? c byte).map fun set => (.chars set, flags)
  | .dot => flags.dot?.map fun set => (.chars set, flags)
  | .assertion kind => some (.look (flags.holds kind), flags)
  | .charClass cls => (cls.members? flags).map fun set => (.chars set, flags)
  | .directive change => some (.empty, flags.change change)
  | .group kind body => do
    let (body, _) ← body.meaning? (flags.change kind.change)
    some (.group kind.captured body, flags)
  | .repeats body least most => do
    let (body, flags) ← body.meaning? flags
    some (.repeats body least most, flags)
  | .seq first rest => do
    let (first, flags) ← first.meaning? flags
    let (rest, flags) ← rest.meaning? flags
    some (.seq first rest, flags)
  | .alt first rest => do
    let (first, flags) ← first.meaning? flags
    let (rest, flags) ← rest.meaning? flags
    some (.alt first rest, flags)

end Provision.Regex
