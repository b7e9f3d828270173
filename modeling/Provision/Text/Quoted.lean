import Provision.Text.Hexadecimal
import Provision.Unicode.Character

/-! # Quoted text -/

namespace Provision.Text

open Unicode

/-- Escapes a character for display between double quotes: those with a short form take it, and
those that do not show on their own are given by code point. -/
def escapeChar (c : Char) : String :=
  match c with
  | '\x00' => "\\0"
  | '\t' => "\\t"
  | '\n' => "\\n"
  | '\r' => "\\r"
  | '"' => "\\\""
  | '\\' => "\\\\"
  | c =>
    if isVisible c then c.toString
    else "\\u\x7b" ++ Hexadecimal.ofNat c.toNat ++ "\x7d"

def quote (s : String) : String :=
  "\"" ++ String.join (s.toList.map escapeChar) ++ "\""

end Provision.Text
