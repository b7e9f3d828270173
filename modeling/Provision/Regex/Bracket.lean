import Provision.Regex.Lexeme

/-! # Reading bracketed classes -/

namespace Provision.Regex

open Unicode

/-! ## Items -/

def asciiClass? (name : List Char) : Option Ranges :=
  match String.ofList name with
  | "alnum" => some (.ofLines ["30-39 41-5a 61-7a"])
  | "alpha" => some (.ofLines ["41-5a 61-7a"])
  | "ascii" => some (.ofLines ["0-7f"])
  | "blank" => some (.ofLines ["9 20"])
  | "cntrl" => some (.ofLines ["0-1f 7f"])
  | "digit" => some asciiDigit
  | "graph" => some (.ofLines ["21-7e"])
  | "lower" => some (.ofLines ["61-7a"])
  | "print" => some (.ofLines ["20-7e"])
  | "punct" => some (.ofLines ["21-2f 3a-40 5b-60 7b-7e"])
  | "space" => some asciiSpace
  | "upper" => some (.ofLines ["41-5a"])
  | "word" => some asciiWord
  | "xdigit" => some (.ofLines ["30-39 41-46 61-66"])
  | _ => none

def readAsciiName? (negated : Bool) (text : List Char) : Option (CharClass × List Char) :=
  match text.span (· != ':') with
  | (name, ':' :: ']' :: left) => (asciiClass? name).map (.ascii · negated, left)
  | _ => none

/-- Reads a class such as `[:alpha:]` or `[:^alpha:]` behind its first bracket, if there is one. -/
def readAscii? : List Char → Option (CharClass × List Char)
  | ':' :: '^' :: rest => readAsciiName? true rest
  | ':' :: rest => readAsciiName? false rest
  | _ => none

def readElement? (spaced : Bool) : List Char → Option (Element × List Char)
  | [] => none
  | '\\' :: rest => readEscape? spaced rest
  | c :: rest => some (.literal c false, rest)

/-- An element as a member of a class. Places and the dot cannot be one. -/
def Element.item? : Element → Option CharClass
  | .literal c _ => some (.single c)
  | .set cls => some cls
  | _ => none

/-- The range from one element to another. Both are characters, in order. -/
def Element.rangeTo? : Element → Element → Option CharClass
  | .literal first _, .literal last _ => if first ≤ last then some (.range first last) else none
  | _, _ => none

/-- Reads the other end of a range that may begin with an element. A hyphen before a bracket or
another hyphen makes no range. -/
def readRangeEnd? (spaced : Bool) (first : Element) (text : List Char) :
    Option (CharClass × List Char) :=
  match skip spaced text with
  | '-' :: behind =>
    if peek spaced behind == some ']' || peek spaced behind == some '-' then
      first.item?.map (·, '-' :: behind)
    else do
      let (last, left) ← readElement? spaced (skip spaced behind)
      let range ← first.rangeTo? last
      some (range, left)
  | _ => first.item?.map (·, text)

/-- Reads one element, or two with a hyphen between them. -/
def readRange? (spaced : Bool) (text : List Char) : Option (CharClass × List Char) := do
  let (first, rest) ← readElement? spaced text
  readRangeEnd? spaced first rest

/-! ## Brackets -/

/-- Reads the beginning of a class behind the hyphens taken there, which stand for themselves. So
does a closing bracket if there are none. -/
def openItems (negated : Bool) : List Char × List Char → (Bool × List CharClass) × List Char
  | ([], ']' :: rest) => ((negated, [.single ']']), rest)
  | (hyphens, rest) => ((negated, hyphens.map .single), rest)

/-- Reads the beginning of a class behind its bracket: whether it is negated, and the hyphens or
the closing bracket that stand for themselves there. -/
def openBracket (spaced : Bool) (text : List Char) : (Bool × List CharClass) × List Char :=
  match skip spaced text with
  | '^' :: rest => openItems true (takeSpaced spaced (· == '-') false rest)
  | rest => openItems false (takeSpaced spaced (· == '-') false rest)

def ClassOp.ofChar? : Char → Option ClassOp
  | '&' => some .intersection
  | '-' => some .difference
  | '~' => some .symmetricDifference
  | _ => none

/-- Reads an operator, if there is one: its character twice. -/
def readOperator? : List Char → Option (ClassOp × List Char)
  | c :: d :: rest => if c = d then (ClassOp.ofChar? c).map (·, rest) else none
  | _ => none

/-- The class that an operator has on its left, with the operator. -/
abbrev Pending := Option (ClassOp × CharClass)

/-- Joins the items read, last first, with what waits on their left. -/
def Pending.join (pending : Pending) (items : List CharClass) : CharClass :=
  let right := CharClass.ofItems items.reverse
  match pending with
  | some (op, left) => .op op left right
  | none => right

/-- Reads one item or operator of a class, and then on as `read` does, or the bracket that closes
the class. Operators bind alike and to the left. -/
def readItem? (spaced : Bool)
    (read : Pending → List CharClass → List Char → Option (CharClass × List Char))
    (pending : Pending) (items : List CharClass) : List Char → Option (CharClass × List Char)
  | [] => none
  | ']' :: rest => some (pending.join items, rest)
  | '[' :: rest =>
    match readAscii? rest with
    | some (cls, left) => read pending (cls :: items) left
    | none => do
      let ((negated, inner), rest) := openBracket spaced rest
      let (body, left) ← read none inner.reverse rest
      read pending (.bracket body negated :: items) left
  | text =>
    match readOperator? text with
    | some (op, rest) => read (some (op, pending.join items)) [] rest
    | none => do
      let (item, left) ← readRange? spaced text
      read pending (item :: items) left

def readItems? (spaced : Bool) :
    Nat → Pending → List CharClass → List Char → Option (CharClass × List Char)
  | 0, _, _, _ => none
  | fuel + 1, pending, items, text =>
    readItem? spaced (readItems? spaced fuel) pending items (skip spaced text)

def readBracket? (spaced : Bool) (text : List Char) : Option (CharClass × List Char) := do
  let ((negated, items), rest) := openBracket spaced text
  let (body, left) ← readItems? spaced text.length none items.reverse rest
  some (.bracket body negated, left)

end Provision.Regex
