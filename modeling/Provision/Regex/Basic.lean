import Provision.Unicode.Ranges

/-! # Regular expressions and where they match

Matching works on sets of places in the text, so that it takes no account of which alternative or
how many repetitions a match prefers: only whether there is a match. -/

namespace Provision

/-- A regular expression over texts of characters. A `look` consumes nothing and asks about the
characters before and after a place. A group that is captured is one whose match can be asked for;
what the whole matches does not depend on groups. -/
inductive Regex
  | empty
  | chars (set : Unicode.Ranges)
  | look (holds : Option Char → Option Char → Bool)
  | seq (first second : Regex)
  | alt (first second : Regex)
  | repeats (body : Regex) (least : Nat) (most : Option Nat)
  | group (captured : Bool) (body : Regex)

namespace Regex

/-! ## Sets of places -/

/-- A set of places in a text: one mark before each character, and one at the end. -/
abbrev Marks := List Bool

def Marks.union (a b : Marks) : Marks :=
  List.zipWith (· || ·) a b

/-- Applies `f` at most `count` times, and stops as soon as nothing changes. -/
def iterate (f : Marks → Marks) : Nat → Marks → Marks
  | 0, marks => marks
  | count + 1, marks =>
    let next := f marks
    if next = marks then marks else iterate f count next

/-- The characters before and after each place of a text that follows `before`. -/
def surroundings (before : Option Char) : List Char → List (Option Char × Option Char)
  | [] => [(before, none)]
  | c :: rest => (before, some c) :: surroundings (some c) rest

/-! ## Matching -/

/-- The places at which a match can end that begins at one of the marked places. -/
def ends (text : List Char) : Regex → Marks → Marks
  | .empty, starts => starts
  | .chars set, starts => false :: List.zipWith (fun mark c => mark && set.contains c) starts text
  | .look holds, starts =>
    List.zipWith (fun mark place => mark && holds place.1 place.2) starts (surroundings none text)
  | .seq first second, starts => ends text second (ends text first starts)
  | .alt first second, starts => (ends text first starts).union (ends text second starts)
  | .repeats body least most, starts =>
    let further (marks : Marks) : Marks := marks.union (ends text body marks)
    let extra := match most with
      | some n => n - least
      | none => text.length + 1
    iterate further extra (iterate (ends text body) least starts)
  | .group _ body, starts => ends text body starts

def matchesWithin (r : Regex) (text : List Char) : Bool :=
  (r.ends text (List.replicate (text.length + 1) true)).any id

end Regex

end Provision
