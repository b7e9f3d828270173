/-! # Flags of a regular expression -/

namespace Provision.Regex

/-- What a flag group such as `(?i-s)` can switch. -/
inductive Flag
  | ignoreCase
  | multiLine
  | dotMatchesLineFeed
  | swapGreed
  | unicode
  | carriageReturn
  | ignoreSpace
  deriving DecidableEq

def Flag.ofChar? : Char → Option Flag
  | 'i' => some .ignoreCase
  | 'm' => some .multiLine
  | 's' => some .dotMatchesLineFeed
  | 'U' => some .swapGreed
  | 'u' => some .unicode
  | 'R' => some .carriageReturn
  | 'x' => some .ignoreSpace
  | _ => none

/-- The flags a group names, each with whether it switches them on. -/
abbrev FlagChange := List (Flag × Bool)

def FlagChange.apply (change : FlagChange) (flag : Flag) (current : Bool) : Bool :=
  (change.lookup flag).getD current

/-- The flags that decide what an expression means. Greed does not: it only chooses among
matches. -/
structure Flags where
  ignoreCase : Bool := false
  multiLine : Bool := false
  dotMatchesLineFeed : Bool := false
  unicode : Bool := true
  carriageReturn : Bool := false

def Flags.change (flags : Flags) (change : FlagChange) : Flags where
  ignoreCase := change.apply .ignoreCase flags.ignoreCase
  multiLine := change.apply .multiLine flags.multiLine
  dotMatchesLineFeed := change.apply .dotMatchesLineFeed flags.dotMatchesLineFeed
  unicode := change.apply .unicode flags.unicode
  carriageReturn := change.apply .carriageReturn flags.carriageReturn

end Provision.Regex
