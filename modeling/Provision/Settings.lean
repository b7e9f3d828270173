import Provision.SearchFlags

/-! # Settings of a registry -/

namespace Provision

structure Settings where
  defaultFlags : SearchFlags := .default
  cacheResolutions : Bool := true
  deriving DecidableEq

namespace Settings

def uncached : Settings := { cacheResolutions := false }

def toJson (s : Settings) : Json :=
  .record [
    ("default_flags", s.defaultFlags.toJson),
    ("cache_resolutions", .bool s.cacheResolutions)]

def part? {β : Type} (read : Json → Option β) (default : β) : Option Json → Option β
  | none => some default
  | some json => read json

/-- Reads settings. What is missing keeps its default. -/
def ofJson? (json : Json) : Option Settings := do
  match ← json.parts? ["default_flags", "cache_resolutions"] with
  | [flags, cache] =>
    some {
      defaultFlags := ← part? SearchFlags.ofJson? .default flags
      cacheResolutions := ← part? Json.bool? true cache }
  | _ => none

def describe (s : Settings) : String :=
  "RegistryConfig \x7b default_flags: " ++ s.defaultFlags.describe ++ ", cache_resolutions: " ++
    (if s.cacheResolutions then "true" else "false") ++ " \x7d"

end Settings

end Provision
