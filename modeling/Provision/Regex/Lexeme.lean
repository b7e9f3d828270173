import Provision.Regex.PropertyName
import Provision.Regex.Expr
import Provision.Unicode.Character

/-! # Parts of the pattern text -/

namespace Provision.Regex

open Unicode Text

/-! ## Blanks

Where the flag `x` holds, blanks and comments from `#` to the end of the line are skipped. -/

def skipBlanks (inComment : Bool) : List Char → List Char
  | [] => []
  | c :: rest =>
    if inComment then skipBlanks (c != '\n') rest
    else if isWhitespace c then skipBlanks false rest
    else if c == '#' then skipBlanks true rest
    else c :: rest

def skip (spaced : Bool) (text : List Char) : List Char :=
  if spaced then skipBlanks false text else text

/-- The character that a hyphen in brackets is judged by. Of a comment it sees the first
character that is not blank. -/
def peek (spaced : Bool) (text : List Char) : Option Char :=
  if !spaced then text.head?
  else
    match text.dropWhile isWhitespace with
    | '#' :: rest => (rest.find? (!isWhitespace ·)) <|> text.head?
    | seen => seen.head? <|> text.head?

/-- Takes the characters that satisfy `p`, past blanks. -/
def takeSpaced (spaced : Bool) (p : Char → Bool) (inComment : Bool) :
    List Char → List Char × List Char
  | [] => ([], [])
  | c :: rest =>
    if inComment then takeSpaced spaced p (c != '\n') rest
    else if p c then
      let (taken, left) := takeSpaced spaced p false rest
      (c :: taken, left)
    else if spaced && isWhitespace c then takeSpaced spaced p false rest
    else if spaced && c == '#' then takeSpaced spaced p true rest
    else ([], c :: rest)

/-- Takes what stands before a closing brace, without the blanks. -/
def takeBraced? (spaced inComment : Bool) : List Char → Option (List Char × List Char)
  | [] => none
  | c :: rest =>
    if inComment then takeBraced? spaced (c != '\n') rest
    else if c == '}' then some ([], rest)
    else if spaced && isWhitespace c then takeBraced? spaced false rest
    else if spaced && c == '#' then takeBraced? spaced true rest
    else (takeBraced? spaced false rest).map fun (taken, left) => (c :: taken, left)

/-! ## Numbers -/

def charOfHex? (digits : List Char) : Option Char := do
  let code ← Hexadecimal.toNat? digits
  if code.isValidChar then some (Char.ofNat code) else none

def takeHex? (spaced : Bool) : Nat → List Char → Option (List Char × List Char)
  | 0, text => some ([], text)
  | count + 1, text =>
    match skip spaced text with
    | [] => none
    | c :: rest =>
      if (Hexadecimal.digit? c).isNone then none
      else (takeHex? spaced count rest).map fun (taken, left) => (c :: taken, left)

/-- The repetition count that digits write, below 2³². -/
def countOf? (digits : List Char) : Option Nat :=
  let count := digits.foldl (fun n c => 10 * n + (c.toNat - '0'.toNat)) 0
  if digits.isEmpty || UInt32.size ≤ count then none else some count

/-- Reads a repetition count. Blanks may stand around it. -/
def takeCount? (spaced : Bool) (text : List Char) : Option (Nat × List Char) := do
  let (digits, rest) := takeSpaced spaced Char.isDigit false (text.dropWhile isWhitespace)
  let count ← countOf? digits
  some (count, skip spaced (rest.dropWhile isWhitespace))

/-! ## Escapes -/

/-- Characters that mean something, and lose that behind a backslash. -/
def isMeta (c : Char) : Bool :=
  "\\.+*?()|[]\x7b\x7d^$#&-~".toList.contains c

/-- Characters that a backslash may stand before although they mean nothing. -/
def isEscapable (c : Char) : Bool :=
  c.toNat < 128 && !c.isAlphanum && c != '<' && c != '>'

inductive Element
  | literal (c : Char) (byte : Bool)
  | dot
  | assertion (kind : Assertion)
  | set (cls : CharClass)

def Element.expr : Element → Expr
  | .literal c byte => .literal c byte
  | .dot => .dot
  | .assertion kind => .assertion kind
  | .set cls => .charClass cls

def wordBoundary? (name : List Char) : Option Assertion :=
  match String.ofList name with
  | "start" => some .wordStart
  | "end" => some .wordEnd
  | "start-half" => some .wordStartHalf
  | "end-half" => some .wordEndHalf
  | _ => none

def closeWordBoundary? (name : List Char) : List Char → Option (Element × List Char)
  | '}' :: left => (wordBoundary? name).map (.assertion ·, left)
  | _ => none

/-- Reads what follows `\b`. A brace belongs to it only if a name begins inside. -/
def readWordBoundary? (spaced : Bool) (text : List Char) : Option (Element × List Char) :=
  let named (c : Char) : Bool := c.isAlpha || c == '-'
  match text with
  | '{' :: rest =>
    match skip spaced rest with
    | [] => some (.assertion .wordBoundary, text)
    | c :: inner =>
      if !named c then some (.assertion .wordBoundary, text)
      else
        let (name, left) := takeSpaced spaced named false (c :: inner)
        closeWordBoundary? name left
  | _ => some (.assertion .wordBoundary, text)

/-- Reads a character by its code point, behind `\x`, `\u` or `\U` and blanks. -/
def readHex? (spaced : Bool) (digits : Nat) : List Char → Option (Element × List Char)
  | '{' :: rest => do
    let (taken, left) ← takeBraced? spaced false rest
    let c ← charOfHex? taken
    some (.literal c false, left)
  | rest => do
    let (taken, left) ← takeHex? spaced digits rest
    let c ← charOfHex? taken
    some (.literal c (digits == 2), left)

def readProperty? (spaced negated : Bool) : List Char → Option (Element × List Char)
  | [] => none
  | '\\' :: _ => none
  | '{' :: rest => do
    let (name, left) ← takeBraced? spaced false rest
    let (members, unequal) ← unicodeClass? name
    some (.set (.property members (negated != unequal)), left)
  | c :: rest => (loneName? [c]).map fun members => (.set (.property members negated), rest)

def readEscape? (spaced : Bool) : List Char → Option (Element × List Char)
  | [] => none
  | c :: rest =>
    match c with
    | 'x' => readHex? spaced 2 (skip spaced rest)
    | 'u' => readHex? spaced 4 (skip spaced rest)
    | 'U' => readHex? spaced 8 (skip spaced rest)
    | 'p' => readProperty? spaced false (skip spaced rest)
    | 'P' => readProperty? spaced true (skip spaced rest)
    | 'd' => some (.set (.shorthand .digit false), rest)
    | 'D' => some (.set (.shorthand .digit true), rest)
    | 's' => some (.set (.shorthand .space false), rest)
    | 'S' => some (.set (.shorthand .space true), rest)
    | 'w' => some (.set (.shorthand .word false), rest)
    | 'W' => some (.set (.shorthand .word true), rest)
    | 'a' => some (.literal '\x07' false, rest)
    | 'f' => some (.literal '\x0c' false, rest)
    | 't' => some (.literal '\t' false, rest)
    | 'n' => some (.literal '\n' false, rest)
    | 'r' => some (.literal '\r' false, rest)
    | 'v' => some (.literal '\x0b' false, rest)
    | 'A' => some (.assertion .startText, rest)
    | 'z' => some (.assertion .endText, rest)
    | 'b' => readWordBoundary? spaced rest
    | 'B' => some (.assertion .notWordBoundary, rest)
    | '<' => some (.assertion .wordStart, rest)
    | '>' => some (.assertion .wordEnd, rest)
    | _ => if isMeta c || isEscapable c then some (.literal c false, rest) else none

end Provision.Regex
