import Provision.TypeId

/-! # The tree of types

Types are numbered in the order of definition, and each comes after all that it refers to, so
walks along parents and along elements end. Arrays are types of the same tree. -/

namespace Provision

/-- One type: its name, the type it extends, and the type of its elements if it is an array. -/
structure TypeNode where
  name : String
  parent : Option TypeId
  component : Option TypeId

/-- Types with single inheritance. Every type comes after the one it extends, and every array
after its elements' type. Two tables lead to types: from their names, and to arrays from the types
of their elements. In a table the newest entry counts. -/
structure TypeTree where
  nodes : Array TypeNode
  byName : List (String × TypeId)
  arrays : List (TypeId × TypeId)
  nonempty : 0 < nodes.size
  parent_lt : ∀ i (h : i < nodes.size) p, nodes[i].parent = some p → p.toNat < i
  component_lt : ∀ i (h : i < nodes.size) c, nodes[i].component = some c → c.toNat < i
  array_lt : ∀ c k, arrays.lookup c = some k → k.toNat < nodes.size

namespace TypeTree

inductive Error
  | duplicateName (name : String)
  | unknownType (id : TypeId)
  | arrayParent (name parent : String)
  deriving DecidableEq

def Error.message : Error → String
  | .duplicateName name => "type '" ++ name ++ "' is already defined"
  | .unknownType id => "unknown type " ++ id.display
  | .arrayParent name parent => "type '" ++ name ++ "' cannot extend array type '" ++ parent ++ "'"

/-! ## Looking at a tree -/

def size (t : TypeTree) : Nat := t.nodes.size

/-- A type that this tree has. -/
def Known (t : TypeTree) (id : TypeId) : Prop := id.toNat < t.size

instance (t : TypeTree) (id : TypeId) : Decidable (t.Known id) :=
  inferInstanceAs (Decidable (id.toNat < t.size))

def node? (t : TypeTree) (id : TypeId) : Option TypeNode := t.nodes[id.toNat]?

def name (t : TypeTree) (id : TypeId) : String := ((t.node? id).map (·.name)).getD "<unknown>"

def parent? (t : TypeTree) (id : TypeId) : Option TypeId := (t.node? id).bind (·.parent)

def component? (t : TypeTree) (id : TypeId) : Option TypeId := (t.node? id).bind (·.component)

def isArray (t : TypeTree) (id : TypeId) : Bool := (t.component? id).isSome

def toList (t : TypeTree) : List (TypeId × String) :=
  t.nodes.toList.zipIdx.map fun (node, i) => (.ofNat i, node.name)

def lookup? (t : TypeTree) (name : String) : Option TypeId := t.byName.lookup name

/-- The type of arrays with elements of type `c`. -/
def arrayType? (t : TypeTree) (c : TypeId) : Option TypeId := t.arrays.lookup c

/-! ## Ancestors and distance -/

theorem node?_eq_some {t : TypeTree} {id : TypeId} {node : TypeNode} (h : t.node? id = some node) :
    ∃ known : id.toNat < t.nodes.size, t.nodes[id.toNat] = node :=
  Array.getElem?_eq_some_iff.mp h

theorem parent_toNat_lt {t : TypeTree} {id p : TypeId} (h : t.parent? id = some p) :
    p.toNat < id.toNat := by
  obtain ⟨node, hnode, hp⟩ := Option.bind_eq_some_iff.mp h
  obtain ⟨known, rfl⟩ := node?_eq_some hnode
  exact t.parent_lt _ known p hp

theorem component_toNat_lt {t : TypeTree} {id c : TypeId} (h : t.component? id = some c) :
    c.toNat < id.toNat := by
  obtain ⟨node, hnode, hc⟩ := Option.bind_eq_some_iff.mp h
  obtain ⟨known, rfl⟩ := node?_eq_some hnode
  exact t.component_lt _ known c hc

/-- A known type and all that it extends, itself first. -/
def ancestors (t : TypeTree) (id : TypeId) : List TypeId :=
  if t.Known id then
    match _h : t.parent? id with
    | some p => id :: t.ancestors p
    | none => [id]
  else []
termination_by id.toNat
decreasing_by exact parent_toNat_lt ‹_›

/-- The steps from `sub` up to `sup`. -/
def distance? (t : TypeTree) (sup sub : TypeId) : Option Nat :=
  (t.ancestors sub).idxOf? sup

/-- Whether a value of type `sub` is a value of type `sup` too. -/
def subsumes (t : TypeTree) (sup sub : TypeId) : Bool := (t.distance? sup sub).isSome

def distanceBetween? (t : TypeTree) (a b : TypeId) : Option Nat :=
  t.distance? a b <|> t.distance? b a

def related (t : TypeTree) (a b : TypeId) : Bool := (t.distanceBetween? a b).isSome

/-! ## Growing a tree -/

def initial : TypeTree where
  nodes := #[⟨"Object", none, none⟩]
  byName := [("Object", .root)]
  arrays := []
  nonempty := Nat.one_pos
  parent_lt i h p hp := by
    simp at h
    subst h
    simp at hp
  component_lt i h c hc := by
    simp at h
    subst h
    simp at hc
  array_lt c k h := nomatch h

def nextId (t : TypeTree) : TypeId := .ofNat t.size

/-- Adds a type at the end, and its name to the table of names. -/
def push (t : TypeTree) (name : String) (parent component : Option TypeId)
    (hp : ∀ p, parent = some p → t.Known p) (hc : ∀ c, component = some c → t.Known c) :
    TypeTree where
  nodes := t.nodes.push ⟨name, parent, component⟩
  byName := (name, t.nextId) :: t.byName
  arrays := t.arrays
  nonempty := by simp
  parent_lt i h p h' := by
    rw [Array.getElem_push] at h'
    split at h'
    · exact t.parent_lt i _ p h'
    · have := hp p h'
      simp only [Known, size, Array.size_push] at *
      omega
  component_lt i h c h' := by
    rw [Array.getElem_push] at h'
    split at h'
    · exact t.component_lt i _ c h'
    · have := hc c h'
      simp only [Known, size, Array.size_push] at *
      omega
  array_lt c k h := by
    have := t.array_lt c k h
    rw [Array.size_push]
    omega

def enterArray (t : TypeTree) (c k : TypeId) (hk : t.Known k) : TypeTree :=
  { t with
    arrays := (c, k) :: t.arrays
    array_lt := by
      intro d l h
      rw [List.lookup_cons] at h
      split at h
      · exact Option.some.inj h ▸ hk
      · exact t.array_lt d l h }

/-- Adds a type that extends `parent`, which must be known and no array. -/
def define (t : TypeTree) (name : String) (parent : TypeId) : TypeTree × Except Error TypeId :=
  if (t.lookup? name).isSome then (t, .error (.duplicateName name))
  else if known : t.Known parent then
    if t.isArray parent then (t, .error (.arrayParent name (t.name parent)))
    else
      (t.push name (some parent) none (fun _ h => Option.some.inj h ▸ known) (fun _ h => nomatch h),
        .ok t.nextId)
  else (t, .error (.unknownType parent))

/-! ## Array types -/

def arrayName (t : TypeTree) (c : TypeId) : String := t.name c ++ "[]"

/-- What comes of asking a tree for an array type: the tree afterwards, which has lost no type, and
the array type, which it has, or an error. -/
structure ArrayRequest (t : TypeTree) where
  tree : TypeTree
  result : Except Error TypeId
  size_le : t.size ≤ tree.size
  known : ∀ id, result = .ok id → tree.Known id

/-- Goes on with the array type, if there is one, and the tree that has it. -/
def ArrayRequest.andThen {t : TypeTree} (r : t.ArrayRequest)
    (next : ∀ k, r.tree.Known k → r.tree.ArrayRequest) : t.ArrayRequest :=
  match h : r.result with
  | .ok k =>
    let last := next k (r.known k h)
    ⟨last.tree, last.result, Nat.le_trans r.size_le last.size_le, last.known⟩
  | .error e => ⟨r.tree, .error e, r.size_le, nofun⟩

theorem known_root (t : TypeTree) : t.Known .root := t.nonempty

theorem known_of_arrayType? {t : TypeTree} {c k : TypeId} (h : t.arrayType? c = some k) :
    t.Known k :=
  t.array_lt c k h

theorem size_push (t : TypeTree) (name : String) (parent component : Option TypeId)
    (hp : ∀ p, parent = some p → t.Known p) (hc : ∀ c, component = some c → t.Known c) :
    (t.push name parent component hp hc).size = t.size + 1 :=
  Array.size_push _

theorem known_nextId {t grown : TypeTree} (h : grown.size = t.size + 1) :
    grown.Known t.nextId := by
  have hle := TypeId.toNat_ofNat_le t.size
  rw [Known, h, nextId]
  omega

/-- Adds the array type of `c`, which extends `parent`. -/
def addArray (t : TypeTree) (c parent : TypeId) (hc : t.Known c) (hp : t.Known parent) :
    ArrayRequest t :=
  let name := t.arrayName c
  if (t.lookup? name).isSome then ⟨t, .error (.duplicateName name), Nat.le_refl _, nofun⟩
  else
    let grown := t.push name (some parent) (some c)
      (fun _ h => Option.some.inj h ▸ hp) (fun _ h => Option.some.inj h ▸ hc)
    have hsize : grown.size = t.size + 1 := t.size_push ..
    { tree := grown.enterArray c t.nextId (known_nextId hsize)
      result := .ok t.nextId
      size_le := Nat.le_trans (Nat.le_succ _) (Nat.le_of_eq hsize.symm)
      known := fun _ h => Except.ok.inj h ▸ known_nextId hsize }

/-- Asks for the array type of `c`. It is made on first use, after the one that it extends. What was
made by then stays when the name turns out to be taken. -/
def requestArray (t : TypeTree) (c : TypeId) : ArrayRequest t :=
  if known : t.Known c then
    match h : t.arrayType? c with
    | some k => ⟨t, .ok k, Nat.le_refl _, fun _ hk => Except.ok.inj hk ▸ known_of_arrayType? h⟩
    | none =>
      match _hp : t.parent? c with
      | none => t.addArray c .root known t.known_root
      | some p =>
        let r := t.requestArray p
        r.andThen fun above => r.tree.addArray c above (Nat.lt_of_lt_of_le known r.size_le)
  else ⟨t, .error (.unknownType c), Nat.le_refl _, nofun⟩
termination_by c.toNat
decreasing_by exact parent_toNat_lt ‹_›

/-- The array type of `c`, and the tree that has it. -/
def arrayOf (t : TypeTree) (c : TypeId) : TypeTree × Except Error TypeId :=
  ((t.requestArray c).tree, (t.requestArray c).result)

end TypeTree

end Provision
