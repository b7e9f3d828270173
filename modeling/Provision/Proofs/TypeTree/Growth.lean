import Provision.Proofs.TypeTree.Order

/-! # Trees that grow

Types are only ever added at the end. Whatever is said of the types that a tree has stays the same
while it grows. -/

namespace Provision

/-! ## Numbers of types -/

namespace TypeId

theorem toNat_inj {a b : TypeId} : a.toNat = b.toNat ↔ a = b := by
  constructor
  · intro h
    cases a
    cases b
    exact congrArg TypeId.mk (UInt32.toNat_inj.mp h)
  · rintro rfl
    rfl

theorem toNat_ofNat {n : Nat} (h : n < UInt32.size) : (ofNat n).toNat = n := by
  simp only [toNat, ofNat, UInt32.toNat_ofNat']
  exact Nat.mod_eq_of_lt h

end TypeId

namespace TypeTree

/-! ## Looking for a type -/

def first? (t : TypeTree) (fits : TypeNode → Bool) : Option TypeId :=
  (t.nodes.findIdx? fits).map .ofNat

/-- The tables lead to what a search through the types finds. -/
structure Indexed (t : TypeTree) : Prop where
  lookup?_eq : ∀ name, t.lookup? name = t.first? (·.name == name)
  arrayType?_eq : ∀ c, t.arrayType? c = t.first? (·.component == some c)

theorem node?_isSome_iff {t : TypeTree} {id : TypeId} :
    (t.node? id).isSome = true ↔ t.Known id := by
  simp [node?, Known, size]

theorem known_of_parent? {t : TypeTree} {id p : TypeId} (h : t.parent? id = some p) :
    t.Known id ∧ t.Known p := by
  obtain ⟨node, hnode, -⟩ := Option.bind_eq_some_iff.mp h
  have known : t.Known id := node?_isSome_iff.mp (by simp [hnode])
  exact ⟨known, Nat.lt_trans (parent_toNat_lt h) known⟩

theorem known_of_component? {t : TypeTree} {id c : TypeId} (h : t.component? id = some c) :
    t.Known id ∧ t.Known c := by
  obtain ⟨node, hnode, -⟩ := Option.bind_eq_some_iff.mp h
  have known : t.Known id := node?_isSome_iff.mp (by simp [hnode])
  exact ⟨known, Nat.lt_trans (component_toNat_lt h) known⟩

section

variable {t : TypeTree} {fits : TypeNode → Bool} {id : TypeId} {node : TypeNode}

theorem first?_eq_none_iff : t.first? fits = none ↔ ∀ node ∈ t.nodes, fits node = false := by
  simp [first?]

theorem isSome_first?_iff : (t.first? fits).isSome = true ↔ ∃ node ∈ t.nodes, fits node = true := by
  rw [Option.isSome_iff_ne_none, ne_eq, first?_eq_none_iff]
  simp

theorem mem_nodes_of_node? (h : t.node? id = some node) : node ∈ t.nodes :=
  Array.mem_of_getElem? h

theorem fits_eq_false_of_first? (h : t.first? fits = none) (hnode : t.node? id = some node) :
    fits node = false :=
  first?_eq_none_iff.mp h node (mem_nodes_of_node? hnode)

theorem first?_of_unique (hnode : t.node? id = some node) (hfits : fits node = true)
    (unique : ∀ other found, t.node? other = some found → fits found = true → other = id) :
    t.first? fits = some id := by
  obtain ⟨known, rfl⟩ := node?_eq_some hnode
  have hsome : (t.nodes.findIdx? fits).isSome = true := by
    rw [Array.findIdx?_isSome]
    exact Array.any_eq_true.mpr ⟨id.toNat, known, hfits⟩
  obtain ⟨i, hi⟩ := Option.isSome_iff_exists.mp hsome
  obtain ⟨hlt, hfirst, hbefore⟩ := Array.findIdx?_eq_some_iff_getElem.mp hi
  have hle : i ≤ id.toNat := Nat.not_lt.mp fun hgt => hbefore id.toNat hgt hfits
  have hsize : i < UInt32.size := Nat.lt_of_le_of_lt hle id.index.toNat_lt
  have hi' : (TypeId.ofNat i).toNat = i := TypeId.toNat_ofNat hsize
  have hother : TypeId.ofNat i = id := by
    refine unique _ t.nodes[i] ?_ hfirst
    simp [node?, hi', hlt]
  simp [first?, hi, hother]

/-- Where all types have a number of their own, what is found fits. -/
theorem node?_of_first? (bound : t.size ≤ UInt32.size) (h : t.first? fits = some id) :
    ∃ node, t.node? id = some node ∧ fits node = true := by
  obtain ⟨i, hi, rfl⟩ := Option.map_eq_some_iff.mp h
  obtain ⟨known, hfits, -⟩ := Array.findIdx?_eq_some_iff_getElem.mp hi
  have hi' : (TypeId.ofNat i).toNat = i := TypeId.toNat_ofNat (Nat.lt_of_lt_of_le known bound)
  exact ⟨t.nodes[i], by simp [node?, hi', known], hfits⟩

theorem first?_eq_toList (t : TypeTree) (fits : TypeNode → Bool) :
    t.first? fits = (t.nodes.toList.findIdx? fits).map .ofNat := by
  rw [first?, ← List.findIdx?_toArray]

theorem first?_of_append {grown : TypeTree} {more : List TypeNode}
    (h : grown.nodes.toList = t.nodes.toList ++ more) (apart : ∀ node ∈ more, fits node = false) :
    grown.first? fits = t.first? fits := by
  have hmore : more.findIdx? fits = none := List.findIdx?_eq_none_iff.mpr apart
  rw [first?_eq_toList, first?_eq_toList, h, List.findIdx?_append, hmore]
  simp

end

/-! ## One type more -/

/-- A tree becomes another by one type at the end, with an entry in the table of names, and in that
of arrays if the type is an array. -/
structure Adds (t : TypeTree) (node : TypeNode) (grown : TypeTree) : Prop where
  nodes : grown.nodes = t.nodes.push node
  byName : grown.byName = (node.name, t.nextId) :: t.byName
  arrays : grown.arrays = (node.component.map fun c => (c, t.nextId)).toList ++ t.arrays

namespace Adds

variable {t grown : TypeTree} {node : TypeNode}

theorem node?_eq (h : t.Adds node grown) (id : TypeId) :
    grown.node? id = if id.toNat = t.size then some node else t.node? id := by
  simp only [node?, h.nodes, Array.getElem?_push]
  rfl

theorem size_eq (h : t.Adds node grown) : grown.size = t.size + 1 := by
  simp [size, h.nodes]

theorem first?_eq (h : t.Adds node grown) (fits : TypeNode → Bool) :
    grown.first? fits = (t.first? fits).or (if fits node then some t.nextId else none) := by
  simp only [first?, h.nodes, Array.findIdx?_push, nextId, size]
  cases t.nodes.findIdx? fits with
  | some i => rfl
  | none => cases fits node <;> rfl

theorem lookup?_eq (h : t.Adds node grown) (name : String) :
    grown.lookup? name = if node.name = name then some t.nextId else t.lookup? name := by
  rw [lookup?, h.byName, List.lookup_cons, lookup?]
  by_cases hname : node.name = name
  · simp [hname]
  · rw [if_neg hname, beq_false_of_ne (Ne.symm hname)]

theorem arrayType?_eq (h : t.Adds node grown) (c : TypeId) :
    grown.arrayType? c = if node.component = some c then some t.nextId else t.arrayType? c := by
  rw [arrayType?, h.arrays, arrayType?]
  cases node.component with
  | none => simp
  | some d =>
      by_cases hd : d = c
      · simp [hd]
      · simp [List.lookup_cons, hd, beq_false_of_ne (Ne.symm hd)]

/-- Tables stay right where what is entered was not there before. -/
theorem indexed (h : t.Adds node grown) (indexed : t.Indexed) (free : t.lookup? node.name = none)
    (missing : ∀ c, node.component = some c → t.arrayType? c = none) : grown.Indexed where
  lookup?_eq name := by
    rw [h.lookup?_eq, h.first?_eq, ← indexed.lookup?_eq]
    by_cases hname : node.name = name
    · subst hname
      simp [free]
    · simp [hname]
  arrayType?_eq c := by
    rw [h.arrayType?_eq, h.first?_eq, ← indexed.arrayType?_eq]
    by_cases hc : node.component = some c
    · simp [hc, missing c hc]
    · simp [hc]

end Adds

/-! ## More types -/

/-- A tree that has all types of another, and maybe more after them. -/
def Extends (t grown : TypeTree) : Prop := t.nodes.toList <+: grown.nodes.toList

namespace Extends

theorem refl (t : TypeTree) : t.Extends t := List.prefix_rfl

variable {t grown last : TypeTree}

theorem trans (h : t.Extends grown) (more : grown.Extends last) : t.Extends last :=
  List.IsPrefix.trans h more

theorem of_adds {node : TypeNode} (h : t.Adds node grown) : t.Extends grown := by
  simp [Extends, h.nodes]

theorem size_le (h : t.Extends grown) : t.size ≤ grown.size := by
  simpa [size] using h.length_le

theorem known {id : TypeId} (h : t.Extends grown) (known : t.Known id) : grown.Known id :=
  Nat.lt_of_lt_of_le known h.size_le

theorem node?_eq {id : TypeId} (h : t.Extends grown) (known : t.Known id) :
    grown.node? id = t.node? id := by
  have hlt : id.toNat < t.nodes.toList.length := by simpa [Known, size] using known
  have hget := List.prefix_iff_getElem?.mp h id.toNat hlt
  simp only [node?, ← Array.getElem?_toList, hget, List.getElem?_eq_getElem hlt]

theorem name_eq {id : TypeId} (h : t.Extends grown) (known : t.Known id) :
    grown.name id = t.name id := by
  rw [name, name, h.node?_eq known]

theorem parent?_eq {id : TypeId} (h : t.Extends grown) (known : t.Known id) :
    grown.parent? id = t.parent? id := by
  rw [parent?, parent?, h.node?_eq known]

theorem component?_eq {id : TypeId} (h : t.Extends grown) (known : t.Known id) :
    grown.component? id = t.component? id := by
  rw [component?, component?, h.node?_eq known]

theorem first?_eq {fits : TypeNode → Bool} {id : TypeId} (h : t.Extends grown)
    (found : t.first? fits = some id) : grown.first? fits = some id := by
  rw [first?_eq_toList] at found
  obtain ⟨i, hi, rfl⟩ := Option.map_eq_some_iff.mp found
  rw [first?_eq_toList, List.IsPrefix.findIdx?_eq_some h hi, Option.map_some]

theorem arrayType?_eq {c k : TypeId} (h : t.Extends grown) (before : t.Indexed)
    (after : grown.Indexed) (found : t.arrayType? c = some k) : grown.arrayType? c = some k := by
  rw [before.arrayType?_eq] at found
  rw [after.arrayType?_eq]
  exact h.first?_eq found

theorem isSome_arrayType? {c : TypeId} (h : t.Extends grown) (before : t.Indexed)
    (after : grown.Indexed) (found : (t.arrayType? c).isSome = true) :
    (grown.arrayType? c).isSome = true := by
  obtain ⟨k, hk⟩ := Option.isSome_iff_exists.mp found
  simp [h.arrayType?_eq before after hk]

theorem ancestors_eq {id : TypeId} (h : t.Extends grown) (known : t.Known id) :
    grown.ancestors id = t.ancestors id := by
  fun_induction ancestors t id with
  | case1 id known p hp ih =>
      have hp' : grown.parent? id = some p := (h.parent?_eq known).trans hp
      rw [ancestors_eq_of_parent (h.known known) hp', ih (known_of_parent? hp).2]
  | case2 id known hp =>
      exact ancestors_eq_of_no_parent (h.known known) ((h.parent?_eq known).trans hp)
  | case3 id unknown => contradiction

theorem distance?_eq {id : TypeId} (h : t.Extends grown) (known : t.Known id) (sup : TypeId) :
    grown.distance? sup id = t.distance? sup id := by
  rw [distance?, distance?, h.ancestors_eq known]

end Extends

end TypeTree

end Provision
