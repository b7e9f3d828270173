import Provision.Unicode.Age
import Provision.Unicode.Segmentation

/-! # Names of Unicode classes -/

namespace Provision.Regex

open Unicode

/-- The form under which names are compared: lower case, without blanks, hyphens, underscores, a
leading `is` and everything beyond ASCII. Only `isc` keeps its beginning. -/
def normalizeName (name : List Char) : String :=
  let (stripped, body) := match name with
    | i :: s :: rest =>
      if (i == 'i' || i == 'I') && (s == 's' || s == 'S') then (true, rest) else (false, name)
    | _ => (false, name)
  let kept := body.filter fun c => c != ' ' && c != '_' && c != '-' && c.toNat < 128
  let normal := String.ofList (kept.map Char.toLower)
  if stripped && normal == "c" then "isc" else normal

/-- What a lone name stands for: a binary property, else a general category, else a script. -/
def loneName? (name : List Char) : Option Ranges :=
  let name := normalizeName name
  Property.named? name <|> GeneralCategory.named? name <|> script? name

def namedValue? (name value : List Char) : Option Ranges :=
  let value := normalizeName value
  match normalizeName name with
  | "generalcategory" | "gc" => GeneralCategory.named? value
  | "script" | "sc" => script? value
  | "scriptextensions" | "scx" => scriptExtension? value
  | "age" => assignedIn? value
  | "graphemeclusterbreak" | "gcb" => Segmentation.Grapheme.named? value
  | "wordbreak" | "wb" => Segmentation.Word.named? value
  | "sentencebreak" | "sb" => Segmentation.Sentence.named? value
  | _ => none

def splitAt? (mark : List Char) : List Char → Option (List Char × List Char)
  | [] => none
  | c :: rest =>
    if mark.isPrefixOf (c :: rest) then some ([], (c :: rest).drop mark.length)
    else (splitAt? mark rest).map fun (before, after) => (c :: before, after)

/-- Reads what stands in `\p{…}`: the members, and whether `!=` negates them. -/
def unicodeClass? (text : List Char) : Option (Ranges × Bool) :=
  match splitAt? ['!', '='] text with
  | some (name, value) => (namedValue? name value).map (·, true)
  | none =>
    match splitAt? [':'] text <|> splitAt? ['='] text with
    | some (name, value) => (namedValue? name value).map (·, false)
    | none => (loneName? text).map (·, false)

end Provision.Regex
