import Std.Data.HashSet
import Provision.Regex.Basic
import Provision.Unicode.Utf8

/-! # How much memory a regular expression takes

An expression is held as two automata that read the bytes of a text, one forward and one backward.
A repetition takes as many copies of its body as its counts say, so that a short text can ask for a
large automaton. An expression is refused if either automaton is too large. -/

namespace Provision.Regex

open Unicode

/-- The bytes that the forward and the backward automaton take. -/
structure Size where
  forward : Nat
  backward : Nat
  deriving DecidableEq

namespace Size

def both (bytes : Nat) : Size := ⟨bytes, bytes⟩

instance : Add Size := ⟨fun a b => ⟨a.forward + b.forward, a.backward + b.backward⟩⟩

def times (size : Size) (count : Nat) : Size := ⟨count * size.forward, count * size.backward⟩

def sum (sizes : List Size) : Size := sizes.foldr (· + ·) (both 0)

end Size

/-! ## States -/

/-- Every state takes so many bytes. -/
def stateSize : Nat := 32

/-- A state that leads on by several ranges of bytes takes so much more for each. -/
def rangeSize : Nat := 8

/-- A state that leads on without reading takes so much more for each of its branches. -/
def branchSize : Nat := 4

def forkSize : Nat := stateSize + 2 * branchSize

/-! ### Classes -/

/-- Sequences, grouped by the range of their first byte. -/
def grouped (sequences : List ByteRanges) : List (List ByteRanges) :=
  sequences.splitBy fun a b => a.head? == b.head?

/-- What may remain to be read of the sequences, after each beginning of one that is not all
of it. -/
def remainders : (depth : Nat) → List ByteRanges → List (List ByteRanges)
  | 0, _ => []
  | depth + 1, sequences =>
    if sequences.all (·.isEmpty) then []
    else sequences :: (grouped sequences).flatMap fun group => remainders depth (group.map (·.tail))

/-- The size of a class. Beyond ASCII, the forward automaton has one state for all beginnings after
which the same remains to be read, and the backward automaton has one for every beginning. -/
def setSize (set : Ranges) : Size :=
  if set.bounds.all (·.2 < 128) then .both (2 * stateSize + rangeSize * set.bounds.size)
  else
    let sequences := set.utf8
    let remainders := remainders 4 sequences
    let width (remainder : List ByteRanges) : Nat := (grouped remainder).length
    let distinct := (Std.HashSet.ofList remainders).toList
    { forward := distinct.foldl (fun total r => total + (stateSize + rangeSize * width r)) stateSize
      backward := 2 * stateSize + branchSize * sequences.length +
        stateSize * remainders.foldl (fun total r => total + width r) 0 }

/-! ### Words -/

def utf8Bytes (word : List Char) : List UInt8 := word.flatMap String.utf8EncodeChar

/-- The runs of words between those that are empty, of which the first few count once. -/
def runs (words : List (List UInt8)) : List (List (List UInt8)) :=
  let words := match words with
    | [] :: rest => [] :: rest.dropWhile (·.isEmpty)
    | _ => words
  words.foldr
    (fun word runs =>
      match word, runs with
      | _ :: _, run :: runs => (word :: run) :: runs
      | _, runs => [] :: runs)
    [[]]

/-- The size of the states that read one of several words. Words share a state for a beginning
unless a word that ends there is preferred to one of them. -/
def wordStates : (depth : Nat) → List (List UInt8) → Nat
  | 0, _ => 0
  | depth + 1, words =>
    if words.all (·.isEmpty) then 0
    else
      let (full, blank) := (runs words).partition (!·.isEmpty)
      let branches := full.length + (full.length + blank.length - 1)
      stateSize + branchSize * branches + (full.map fun run =>
        let heads := (run.map List.head?).eraseDups
        let ranges := if heads.length = 1 then 0 else rangeSize * heads.length
        stateSize + ranges + (heads.map fun head =>
          wordStates depth ((run.filter (·.head? == head)).map (·.tail))).sum).sum

def wordsSize (words : List (List UInt8)) : Nat :=
  stateSize + wordStates ((words.map List.length).max?.getD 0) words

/-! ## Outlines

An expression is simplified before it is compiled, as far as its form at the top allows. -/

/-- The form of an expression at the top, as far as simplification asks for it. -/
inductive Form
  | empty
  | word (letters : List Char)
  | set (members : Ranges)
  | other

/-- What the size of an expression in a larger one depends on: its form, its own size, the fewest
characters that it matches, and whether it only ever matches the empty text. An expression that
matches nothing at all has no fewest characters. -/
structure Outline where
  form : Form
  size : Size
  fewest : Option Nat
  blank : Bool

namespace Outline

def empty : Outline := ⟨.empty, .both stateSize, some 0, true⟩

def look : Outline := ⟨.other, .both stateSize, some 0, true⟩

def word (letters : List Char) : Outline :=
  ⟨.word letters, .both (stateSize * (utf8Bytes letters).length), some letters.length, false⟩

/-- The outline of a class. With one member it is a word. -/
def ofSet (set : Ranges) : Outline :=
  match set.toList with
  | [] => ⟨.set set, setSize set, none, false⟩
  | [(first, last)] =>
    if first = last then word [Char.ofNat first] else ⟨.set set, setSize set, some 1, false⟩
  | _ => ⟨.set set, setSize set, some 1, false⟩

def append (a b : Outline) : Outline :=
  let joined (form : Form) : Outline :=
    ⟨form, a.size + b.size, a.fewest.bind fun n => b.fewest.map (n + ·), a.blank && b.blank⟩
  match a.form, b.form with
  | .empty, _ => b
  | _, .empty => a
  | .word x, .word y => joined (.word (x ++ y))
  | _, _ => joined .other

/-- Only the forward automaton marks where a capture begins and ends. -/
def capture (body : Outline) : Outline :=
  { body with form := .other, size := body.size + ⟨2 * stateSize, 0⟩ }

/-! ### Repetitions -/

/-- The size of a repetition. Each further copy beyond the least count can be left out by a fork,
and so can what is repeated without end. -/
def repeatedSize (body : Outline) (least : Nat) : Option Nat → Size
  | none =>
    if 0 < least then body.size.times least + .both forkSize
    else if body.fewest.any (0 < ·) then body.size + .both forkSize
    else body.size + .both (2 * forkSize + stateSize)
  | some most =>
    if least = most then body.size.times least
    else
      let must := if least = 0 then .both stateSize else body.size.times least
      let may := (body.size + .both forkSize).times (most - least)
      if least = 0 ∧ most = 1 then may + .both stateSize else must + may + .both stateSize

/-- The outline of a repetition. What matches only the empty text is not repeated. -/
def repeated (body : Outline) (least : Nat) (most : Option Nat) : Outline :=
  let (least, most) :=
    if body.blank then (min least 1, some (min (most.getD 1) 1)) else (least, most)
  if most = some 0 then empty
  else if least = 1 ∧ most = some 1 then body
  else ⟨.other, body.repeatedSize least most, body.fewest.map (· * least), body.blank⟩

/-! ### Alternatives -/

def character? (a : Outline) : Option Ranges :=
  match a.form with
  | .word [c] => some (.single c)
  | _ => none

def members? (a : Outline) : Option Ranges :=
  match a.form with
  | .set members => some members
  | _ => none

def bytes? (a : Outline) : Option (List UInt8) :=
  match a.form with
  | .word letters => some (utf8Bytes letters)
  | _ => none

/-- Alternatives that are all single characters are one class, and so are those that are all
classes. -/
def merged (branches : List Outline) : List Outline :=
  match branches with
  | [branch] => [branch]
  | _ =>
    match branches.mapM character? <|> branches.mapM members? with
    | some sets => [ofSet (.ofAll sets)]
    | none => branches

def choice (branches : List Outline) : Outline :=
  match merged branches with
  | [branch] => branch
  | branches =>
    let size := match branches.mapM bytes? with
      | some words => ⟨wordsSize words, wordsSize (words.map List.reverse)⟩
      | none =>
        .sum (branches.map size) + .both (2 * stateSize + branchSize * branches.length)
    ⟨.other, size, (branches.mapM fewest).bind List.min?, branches.all blank⟩

end Outline

/-! ## Sizes of expressions -/

/-- The alternatives of an expression. Those of a group that is not captured count as alternatives
of what it stands in. -/
def branches : Regex → List Outline
  | .empty => [.empty]
  | .chars set => [.ofSet set]
  | .look _ => [.look]
  | .seq first second => [(Outline.choice (branches first)).append (.choice (branches second))]
  | .alt first second => Outline.merged (branches first) ++ branches second
  | .repeats body least most => [(Outline.choice (branches body)).repeated least most]
  | .group captured body =>
    if captured then [(Outline.choice (branches body)).capture]
    else Outline.merged (branches body)

/-- The size of a whole expression, with a state before it and one at its end. The whole counts as
captured. -/
def size (r : Regex) : Size :=
  (Outline.choice r.branches).capture.size + .both (2 * stateSize)

def sizeLimit : Nat := 10 * 1024 * 1024

def fits (r : Regex) : Bool :=
  r.size.forward ≤ sizeLimit && r.size.backward ≤ sizeLimit

end Provision.Regex
