import Provision.Regex.Bracket

/-! # Tokens of a pattern

How a pattern is cut depends on whether blanks are ignored, and so on the flags that are in
force. -/

namespace Provision.Regex

open Unicode

inductive Token
  | element (e : Element)
  | openGroup (kind : GroupKind)
  | closeGroup
  | bar
  | directive (change : FlagChange)
  | repeats (least : Nat) (most : Option Nat)

/-! ## Groups -/

/-- Reads the flags of a group up to the colon or bracket that ends them, and whether it is the
colon. No flag is named twice, and a hyphen is followed by a flag. -/
def readFlags? (seen : List Flag) (negated dangling : Bool) :
    List Char → Option ((FlagChange × Bool) × List Char)
  | [] => none
  | c :: rest =>
    match c with
    | ':' => if dangling then none else some (([], true), rest)
    | ')' => if dangling then none else some (([], false), rest)
    | '-' => if negated then none else readFlags? seen true true rest
    | c => do
      let flag ← Flag.ofChar? c
      if flag ∈ seen then none
      else
        let ((change, colon), left) ← readFlags? (flag :: seen) negated false rest
        some (((flag, !negated) :: change, colon), left)

/-- Whether a group may be named so: a letter or underscore, then also digits, dots and
brackets. -/
def isGroupName : List Char → Bool
  | [] => false
  | c :: rest =>
    (c == '_' || isAlphabetic c) &&
      rest.all fun c => c == '_' || c == '.' || c == '[' || c == ']' || isAlphanumeric c

def readName? (text : List Char) : Option (Token × List Char) :=
  match text.span (· != '>') with
  | (name, _ :: left) => if isGroupName name then some (.openGroup (.capture name), left) else none
  | _ => none

/-- Reads what follows an opening bracket and a question mark. There is no looking around: no flag
and no name begins so. -/
def readKind? : List Char → Option (Token × List Char)
  | 'P' :: '<' :: rest => readName? rest
  | '<' :: rest => readName? rest
  | rest => do
    let ((change, colon), left) ← readFlags? [] false false rest
    if colon then some (.openGroup (.scoped change), left)
    else if change.isEmpty then none
    else some (.directive change, left)

def readGroup? (spaced : Bool) (text : List Char) : Option (Token × List Char) :=
  match skip spaced text with
  | '?' :: rest => readKind? rest
  | _ => some (.openGroup (.capture none), text)

/-! ## Repetitions -/

/-- Drops the question mark that makes a repetition lazy, and the blanks before it. -/
def dropLazy (spaced : Bool) (text : List Char) : List Char :=
  match skip spaced text with
  | '?' :: rest => rest
  | _ => text

def closeCounts? (spaced : Bool) (least : Nat) (most : Option Nat) :
    List Char → Option (Token × List Char)
  | '}' :: left =>
    if most.any (· < least) then none else some (.repeats least most, dropLazy spaced left)
  | _ => none

/-- Reads the greatest count, if there is one, behind the comma and blanks. -/
def readMost? (spaced : Bool) (least : Nat) : List Char → Option (Token × List Char)
  | '}' :: left => closeCounts? spaced least none ('}' :: left)
  | text => do
    let (most, rest) ← takeCount? spaced text
    closeCounts? spaced least (some most) rest

def readBound? (spaced : Bool) (least : Nat) : List Char → Option (Token × List Char)
  | ',' :: rest => readMost? spaced least (skip spaced rest)
  | text => closeCounts? spaced least (some least) text

def readCounts? (spaced : Bool) (text : List Char) : Option (Token × List Char) := do
  let (least, rest) ← takeCount? spaced (skip spaced text)
  readBound? spaced least rest

/-! ## Tokens -/

def readToken? (spaced : Bool) : List Char → Option (Token × List Char)
  | [] => none
  | c :: rest =>
    match c with
    | '(' => readGroup? spaced rest
    | ')' => some (.closeGroup, rest)
    | '|' => some (.bar, rest)
    | '[' => (readBracket? spaced rest).map fun (cls, left) => (.element (.set cls), left)
    | '?' => some (.repeats 0 (some 1), dropLazy false rest)
    | '*' => some (.repeats 0 none, dropLazy false rest)
    | '+' => some (.repeats 1 none, dropLazy false rest)
    | '\x7b' => readCounts? spaced rest
    | '\\' => (readEscape? spaced rest).map fun (e, left) => (.element e, left)
    | '.' => some (.element .dot, rest)
    | '^' => some (.element (.assertion .startLine), rest)
    | '$' => some (.element (.assertion .endLine), rest)
    | c => some (.element (.literal c false), rest)

end Provision.Regex
