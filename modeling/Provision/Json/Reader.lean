import Provision.Json.Basic

/-! # Reading JSON

A text is read as one value or not at all. -/

namespace Provision.Json

def skipSpace (text : List Char) : List Char :=
  text.dropWhile fun c => c == ' ' || c == '\n' || c == '\r' || c == '\t'

/-! ## Strings -/

/-- The text that code units spell, if every surrogate has its other half. -/
def textOfUnits? : List Nat → Option (List Char)
  | [] => some []
  | unit :: rest =>
    if 0xd800 ≤ unit && unit < 0xdc00 then
      match rest with
      | low :: rest =>
        if 0xdc00 ≤ low && low < 0xe000 then
          (textOfUnits? rest).map
            (Char.ofNat (0x10000 + (unit - 0xd800) * 0x400 + (low - 0xdc00)) :: ·)
        else none
      | [] => none
    else if 0xdc00 ≤ unit && unit < 0xe000 then none
    else (textOfUnits? rest).map (Char.ofNat unit :: ·)

def shortEscape? : Char → Option Char
  | '"' => some '"'
  | '\\' => some '\\'
  | '/' => some '/'
  | 'b' => some '\x08'
  | 'f' => some '\x0c'
  | 'n' => some '\n'
  | 'r' => some '\r'
  | 't' => some '\t'
  | _ => none

/-- Reads the code units of a string up to its closing quote. -/
def readUnits? : List Char → Option (List Nat × List Char)
  | [] => none
  | '"' :: rest => some ([], rest)
  | '\\' :: 'u' :: a :: b :: c :: d :: rest => do
    let unit ← Text.Hexadecimal.toNat? [a, b, c, d]
    let (units, left) ← readUnits? rest
    some (unit :: units, left)
  | '\\' :: e :: rest => do
    let c ← shortEscape? e
    let (units, left) ← readUnits? rest
    some (c.toNat :: units, left)
  | c :: rest =>
    if c.toNat < 32 || c == '\\' then none
    else (readUnits? rest).map fun (units, left) => (c.toNat :: units, left)

def readString? (text : List Char) : Option (Option String × List Char) :=
  (readUnits? text).map fun (units, left) => ((textOfUnits? units).map .ofList, left)

/-! ## Numbers -/

def readDigits? (text : List Char) : Option (List Char × List Char) :=
  match text.span Char.isDigit with
  | ([], _) => none
  | found => some found

/-- Reads an integer: a zero, or digits that begin with none. -/
def readInteger? : List Char → Option (List Char × List Char)
  | '0' :: rest => some (['0'], rest)
  | text => readDigits? text

def readFraction? : List Char → Option (List Char × List Char)
  | '.' :: rest => (readDigits? rest).map fun (digits, left) => ('.' :: digits, left)
  | text => some ([], text)

def readExponent? : List Char → Option (List Char × List Char)
  | 'e' :: rest | 'E' :: rest =>
    let (sign, rest) := match rest with
      | '+' :: rest => (['+'], rest)
      | '-' :: rest => (['-'], rest)
      | _ => ([], rest)
    (readDigits? rest).map fun (digits, left) => ('e' :: sign ++ digits, left)
  | text => some ([], text)

def readNumber? (text : List Char) : Option (String × List Char) := do
  let (sign, rest) := match text with
    | '-' :: rest => (['-'], rest)
    | _ => ([], text)
  let (integer, rest) ← readInteger? rest
  let (fraction, rest) ← readFraction? rest
  let (exponent, rest) ← readExponent? rest
  some (.ofList (sign ++ integer ++ fraction ++ exponent), rest)

/-! ## Values -/

mutual

def readValue? : Nat → List Char → Option (Json × List Char)
  | 0, _ => none
  | fuel + 1, text =>
    match text with
    | 'n' :: 'u' :: 'l' :: 'l' :: rest => some (.null, rest)
    | 't' :: 'r' :: 'u' :: 'e' :: rest => some (.bool true, rest)
    | 'f' :: 'a' :: 'l' :: 's' :: 'e' :: rest => some (.bool false, rest)
    | '"' :: rest => (readString? rest).map fun (text, left) => (.string text, left)
    | '[' :: rest =>
      match skipSpace rest with
      | ']' :: left => some (.array [], left)
      | rest => (readItems? fuel rest).map fun (items, left) => (.array items, left)
    | '\x7b' :: rest =>
      match skipSpace rest with
      | '\x7d' :: left => some (.object [], left)
      | rest => (readFields? fuel rest).map fun (fields, left) => (.object fields, left)
    | text => (readNumber? text).map fun (spelling, left) => (.number spelling, left)

def readItems? : Nat → List Char → Option (List Json × List Char)
  | 0, _ => none
  | fuel + 1, text => do
    let (item, rest) ← readValue? fuel text
    match skipSpace rest with
    | ']' :: left => some ([item], left)
    | ',' :: rest =>
      let (items, left) ← readItems? fuel (skipSpace rest)
      some (item :: items, left)
    | _ => none

def readFields? : Nat → List Char → Option (List (Option String × Json) × List Char)
  | 0, _ => none
  | fuel + 1, text =>
    match text with
    | '"' :: rest => do
      let (name, rest) ← readString? rest
      match skipSpace rest with
      | ':' :: rest =>
        let (value, rest) ← readValue? fuel (skipSpace rest)
        match skipSpace rest with
        | '\x7d' :: left => some ([(name, value)], left)
        | ',' :: rest =>
          let (fields, left) ← readFields? fuel (skipSpace rest)
          some ((name, value) :: fields, left)
        | _ => none
      | _ => none
    | _ => none

end

def parse? (text : String) : Option Json := do
  let chars := text.toList
  let (value, rest) ← readValue? (2 * chars.length + 1) (skipSpace chars)
  if (skipSpace rest).isEmpty then some value else none

end Provision.Json
