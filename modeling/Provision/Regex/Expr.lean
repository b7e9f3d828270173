import Provision.Regex.Flags
import Provision.Unicode.Ranges

/-! # Written form of a regular expression

What the reader of patterns builds, before flags and classes are given their meaning. -/

namespace Provision.Regex

/-! ## Character classes -/

inductive Shorthand
  | digit
  | space
  | word

/-! ### The ASCII members of the shorthands -/

def asciiDigit : Unicode.Ranges := .ofLines ["30-39"]

def asciiSpace : Unicode.Ranges := .ofLines ["9-d 20"]

def asciiWord : Unicode.Ranges := .ofLines ["30-39 41-5a 5f 61-7a"]

/-! ### Classes -/

inductive ClassOp
  | intersection
  | difference
  | symmetricDifference

/-- What stands between brackets, or names a set of characters by an escape. -/
inductive CharClass
  | none
  | single (c : Char)
  | range (first last : Char)
  | shorthand (kind : Shorthand) (negated : Bool)
  | property (members : Unicode.Ranges) (negated : Bool)
  | ascii (members : Unicode.Ranges) (negated : Bool)
  | union (first rest : CharClass)
  | op (kind : ClassOp) (left right : CharClass)
  | bracket (body : CharClass) (negated : Bool)

namespace CharClass

def ofItems : List CharClass → CharClass
  | [] => .none
  | [item] => item
  | item :: rest => .union item (ofItems rest)

/-- How deeply brackets, operators and lists of items nest. A list of items is one level. -/
def depth : CharClass → Nat
  | .union first rest =>
    max (first.depth + 1) (match rest with | .union .. => rest.depth | _ => rest.depth + 1)
  | .op _ left right => max left.depth right.depth + 1
  | .bracket body _ => body.depth + 1
  | _ => 0

end CharClass

/-! ## Assertions -/

inductive Assertion
  | startLine
  | endLine
  | startText
  | endText
  | wordBoundary
  | notWordBoundary
  | wordStart
  | wordEnd
  | wordStartHalf
  | wordEndHalf

/-! ## Groups -/

/-- What a pair of brackets is for: to capture what it matches, under a name or not, or to change
flags inside of it. -/
inductive GroupKind
  | capture (name : Option (List Char))
  | scoped (change : FlagChange)

namespace GroupKind

def change : GroupKind → FlagChange
  | .capture _ => []
  | .scoped change => change

def captured : GroupKind → Bool
  | .capture _ => true
  | .scoped _ => false

def name? : GroupKind → Option (List Char)
  | .capture name => name
  | .scoped _ => none

end GroupKind

/-! ## Expressions -/

/-- An expression as written. A literal spelled by two hexadecimal digits is marked as a byte, and
a `directive` such as `(?i)` changes the flags of what follows it in its group. -/
inductive Expr
  | empty
  | literal (c : Char) (byte : Bool)
  | dot
  | assertion (kind : Assertion)
  | charClass (cls : CharClass)
  | directive (change : FlagChange)
  | group (kind : GroupKind) (body : Expr)
  | repeats (body : Expr) (least : Nat) (most : Option Nat)
  | seq (first rest : Expr)
  | alt (first rest : Expr)

namespace Expr

def sequence : List Expr → Expr
  | [] => .empty
  | [e] => e
  | e :: rest => .seq e (sequence rest)

def alternation : List Expr → Expr
  | [] => .empty
  | [e] => e
  | e :: rest => .alt e (alternation rest)

/-- How deeply groups, repetitions, brackets, sequences and alternations nest. A sequence is one
level, and so is an alternation. -/
def depth : Expr → Nat
  | .charClass cls => cls.depth
  | .group _ body => body.depth + 1
  | .repeats body _ _ => body.depth + 1
  | .seq first rest =>
    max (first.depth + 1) (match rest with | .seq .. => rest.depth | _ => rest.depth + 1)
  | .alt first rest =>
    max (first.depth + 1) (match rest with | .alt .. => rest.depth | _ => rest.depth + 1)
  | _ => 0

end Expr

end Provision.Regex
