import Provision.Draft

/-! # Records and ready-made callbacks

Payloads of plain data, with lists and records that are shared by their place in a store, and
the getters, conversions, changes and judgements that can be put together from them. -/

namespace Provision

/-! ## Payloads -/

/-- What a value holds. The members of lists and records are kept in the store. -/
inductive Content
  | unit
  | text (s : String)
  | integer (n : Int)
  | list
  | record
  deriving DecidableEq

/-- A payload and its place in the store. One that was computed has no place yet. -/
structure Payload where
  content : Content
  place : Option Nat := none
  deriving DecidableEq

abbrev Datum := Value Payload

/-- Whether two values hold one payload together. -/
def Value.shares (a b : Datum) : Bool :=
  a.payload.place.isSome && a.payload.place == b.payload.place

/-! ## The store -/

inductive Members
  | none
  | list (items : List Datum)
  | record (fields : List (String × Datum))

structure Call where
  label : String
  mode : ChangeMode
  value : Option Datum

/-- The members of all payloads by place, and the changes asked for so far, last first. -/
structure Store where
  cells : Array Members := #[]
  calls : List Call := []

namespace Store

def alloc (s : Store) (content : Content) (members : Members) : Payload × Store :=
  (⟨content, some s.cells.size⟩, { s with cells := s.cells.push members })

def members (s : Store) (d : Datum) : Members :=
  (d.payload.place.bind fun i => s.cells[i]?).getD .none

def items? (s : Store) (d : Datum) : Option (List Datum) :=
  match s.members d with
  | .list items => some items
  | _ => none

def fields? (s : Store) (d : Datum) : Option (List (String × Datum)) :=
  match s.members d with
  | .record fields => some fields
  | _ => none

def field? (s : Store) (d : Datum) (name : String) : Option Datum :=
  (s.fields? d).bind (·.lookup name)

/-- Changes the fields of a record. Anything else is left alone. -/
def modifyFields (s : Store) (d : Datum)
    (f : List (String × Datum) → List (String × Datum)) : Store :=
  match d.payload.place, s.fields? d with
  | some i, some fields => { s with cells := s.cells.setIfInBounds i (.record (f fields)) }
  | _, _ => s

def setField (s : Store) (d : Datum) (name : String) (value : Datum) : Store :=
  s.modifyFields d fun fields => (name, value) :: fields.filter (·.1 != name)

def removeField (s : Store) (d : Datum) (name : String) : Store :=
  s.modifyFields d fun fields => fields.filter (·.1 != name)

def log (s : Store) (label : String) (mode : ChangeMode) (value : Option Datum) : Store :=
  { s with calls := ⟨label, mode, value⟩ :: s.calls }

end Store

/-! ## Getters -/

namespace Getter

def nothing : Getter Store Payload := fun _ _ => none

def context : Getter Store Payload := fun _ d => some d

def constant (value : Datum) : Getter Store Payload := fun _ _ => some value

def field (name : String) : Getter Store Payload := fun s d => s.field? d name

end Getter

/-! ## Converters -/

namespace Converter

def fail : Converter Store Payload := fun _ _ => none

/-- Gives a text, whatever the value. -/
def tag (type : TypeId) (text : String) : Converter Store Payload :=
  fun _ _ => some ⟨type, { content := .text text }⟩

/-- Reads an integer of 64 bits: an optional sign, and digits. -/
def readInteger? (text : String) : Option Int := do
  let (negative, digits) := match text.toList with
    | '-' :: digits => (true, digits)
    | '+' :: digits => (false, digits)
    | digits => (false, digits)
  if digits.isEmpty || !digits.all Char.isDigit then none
  else
    let magnitude : Int := digits.foldl (fun n c => 10 * n + (c.toNat - '0'.toNat)) 0
    let n := if negative then -magnitude else magnitude
    if Int64.minValue.toInt ≤ n ∧ n ≤ Int64.maxValue.toInt then some n else none

def parse (type : TypeId) : Converter Store Payload := fun _ d =>
  match d.payload.content with
  | .text s => (readInteger? s).map fun n => ⟨type, { content := .integer n }⟩
  | _ => none

def display (type : TypeId) : Converter Store Payload := fun _ d =>
  match d.payload.content with
  | .integer n => some ⟨type, { content := .text (toString n) }⟩
  | _ => none

/-- Gives the value of a record's field as it is. -/
def field (name : String) : Converter Store Payload := fun s d => s.field? d name

/-- Gives a copy with another type. Lists and records are not copied. -/
def retag (type : TypeId) : Converter Store Payload := fun _ d =>
  match d.payload.content with
  | .list | .record => none
  | content => some ⟨type, { content }⟩

end Converter

/-! ## Changers -/

namespace Changers

/-- Changes that are all logged. With a field, setting writes it in the context, and deleting and
resetting remove it. -/
def logged (label : String) (field : Option String) (modes : List ChangeMode) :
    Changers Store Payload :=
  let withValue (mode : ChangeMode) : Option (Datum → Datum → Store → Store) :=
    if mode ∈ modes then
      some fun context value s =>
        let s := s.log label mode (some value)
        match field with
        | some name => if mode = .set then s.setField context name value else s
        | none => s
    else none
  let withoutValue (mode : ChangeMode) : Option (Datum → Store → Store) :=
    if mode ∈ modes then
      some fun context s =>
        let s := s.log label mode none
        match field with
        | some name => s.removeField context name
        | none => s
    else none
  { set := withValue .set
    add := withValue .add
    remove := withValue .remove
    removeAll := withValue .removeAll
    delete := withoutValue .delete
    reset := withoutValue .reset }

end Changers

/-! ## Validators -/

namespace Validator

def startsWith (text input : String) : Bool := text.toList.isPrefixOf input.toList

def differs (text input : String) : Bool := input != text

def atMost (count : Nat) (input : String) : Bool := input.length ≤ count

def contextDiffers (type : TypeId) (_ : TypeTree) (context : TypeId) : Bool := context != type

def contextOutside (type : TypeId) (t : TypeTree) (context : TypeId) : Bool :=
  !t.subsumes type context

def contextDepth (count : Nat) (t : TypeTree) (context : TypeId) : Bool :=
  (t.ancestors context).length ≤ count

end Validator

end Provision
