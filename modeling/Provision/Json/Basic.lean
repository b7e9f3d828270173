import Provision.Text.Hexadecimal

/-! # JSON

Values as read or to be written, with the forms that records and alternatives take. -/

namespace Provision

/-- A JSON value as written. A number keeps its spelling. A string whose escapes name half of a
surrogate pair has no text. -/
inductive Json
  | null
  | bool (b : Bool)
  | number (spelling : String)
  | string (text : Option String)
  | array (items : List Json)
  | object (fields : List (Option String × Json))
deriving Inhabited

namespace Json

def ofString (s : String) : Json := .string (some s)

def ofNat (n : Nat) : Json := .number (toString n)

def record (fields : List (String × Json)) : Json :=
  .object (fields.map fun (name, value) => (some name, value))

/-! ## Writing -/

def escapeChar (c : Char) : String :=
  match c with
  | '"' => "\\\""
  | '\\' => "\\\\"
  | '\n' => "\\n"
  | '\r' => "\\r"
  | '\t' => "\\t"
  | '\x08' => "\\b"
  | '\x0c' => "\\f"
  | c =>
    if c.toNat < 16 then "\\u000" ++ Text.Hexadecimal.ofNat c.toNat
    else if c.toNat < 32 then "\\u00" ++ Text.Hexadecimal.ofNat c.toNat
    else c.toString

def quote (s : String) : String :=
  "\"" ++ String.join (s.toList.map escapeChar) ++ "\""

mutual

def render : Json → String
  | .null => "null"
  | .bool b => if b then "true" else "false"
  | .number spelling => spelling
  | .string text => quote (text.getD "")
  | .array items => "[" ++ renderItems items ++ "]"
  | .object fields => "\x7b" ++ renderFields fields ++ "\x7d"

def renderItems : List Json → String
  | [] => ""
  | [item] => item.render
  | item :: rest => item.render ++ "," ++ renderItems rest

def renderFields : List (Option String × Json) → String
  | [] => ""
  | [(name, value)] => quote (name.getD "") ++ ":" ++ value.render
  | (name, value) :: rest =>
    quote (name.getD "") ++ ":" ++ value.render ++ "," ++ renderFields rest

end

/-! ## Looking into a value -/

def text? : Json → Option String
  | .string text => text
  | _ => none

def bool? : Json → Option Bool
  | .bool b => some b
  | _ => none

/-- A number spelled with digits alone. -/
def nat? : Json → Option Nat
  | .number spelling =>
    if spelling.toList.all Char.isDigit then
      some (spelling.toList.foldl (fun n c => 10 * n + (c.toNat - '0'.toNat)) 0)
    else none
  | _ => none

/-- The name of an alternative that carries nothing: a string, or an object from it to null. -/
def alternative? : Json → Option String
  | .string text => text
  | .object [(name, .null)] => name
  | _ => none

/-- The parts of a record with these fields: by name, where others are passed over and none of
these comes twice, or by position, where the last may be missing. -/
def parts? (names : List String) : Json → Option (List (Option Json))
  | .object fields => do
    let fields ← fields.mapM fun (name, value) => name.map (·, value)
    names.mapM fun name =>
      match fields.filter (·.1 == name) with
      | [] => some none
      | [(_, value)] => some (some value)
      | _ => none
  | .array items =>
    if items.length ≤ names.length then
      some ((List.range names.length).map fun i => items[i]?)
    else none
  | _ => none

end Json

end Provision
