import Mathlib.Logic.Relation
import Provision.Proofs.TypeTree.Growth

/-! # What every tree of types keeps to

Each type that is added has a name of its own and extends another type, and arrays stand above each
other as their components do. The tables tell the same as the types. -/

namespace Provision.TypeTree

/-- What the array type of `c` extends: the array type of `c`'s parent, or the root. -/
def arrayParent (t : TypeTree) (c : TypeId) : TypeId :=
  ((t.parent? c).bind t.arrayType?).getD .root

/-- The tables are right, no two types have the same name or the same component, all but the root
extend a type, and an array extends the array of what its component extends. -/
structure Consistent (t : TypeTree) : Prop where
  indexed : t.Indexed
  parent?_eq_none_iff : ∀ id, t.Known id → (t.parent? id = none ↔ id = .root)
  name_inj : ∀ a b, t.Known a → t.Known b → t.name a = t.name b → a = b
  component_inj : ∀ a b c, t.component? a = some c → t.component? b = some c → a = b
  array_name : ∀ a c, t.component? a = some c → t.name a = t.arrayName c
  array_parent : ∀ a c, t.component? a = some c → t.parent? a = some (t.arrayParent c)
  arrays_above : ∀ c p, (t.arrayType? c).isSome = true → t.parent? c = some p →
    (t.arrayType? p).isSome = true

/-- A type that may come next: its name is free, and it extends a known type. An array is the first
with its component, and the array above it is there. -/
structure Admits (t : TypeTree) (node : TypeNode) : Prop where
  free : t.lookup? node.name = none
  extends_known : ∃ p, node.parent = some p ∧ t.Known p
  array : ∀ c, node.component = some c →
    t.Known c ∧ t.arrayType? c = none ∧ node.name = t.arrayName c ∧
      node.parent = some (t.arrayParent c) ∧
      ∀ p, t.parent? c = some p → (t.arrayType? p).isSome = true

/-- A tree becomes another by types that may come next, one after the other. -/
def Grows : TypeTree → TypeTree → Prop :=
  Relation.ReflTransGen fun t grown => ∃ node, t.Admits node ∧ t.Adds node grown

theorem Grows.extends {t grown : TypeTree} (h : t.Grows grown) : t.Extends grown := by
  induction h with
  | refl => exact .refl t
  | tail _ hlast ih =>
      obtain ⟨node, -, hadds⟩ := hlast
      exact ih.trans (.of_adds hadds)

theorem Grows.eq_of_size_eq {t grown : TypeTree} (h : t.Grows grown) (hsize : grown.size = t.size) :
    grown = t := by
  cases h with
  | refl => rfl
  | tail hbefore hlast =>
      obtain ⟨node, -, hadds⟩ := hlast
      have hle := (Grows.extends hbefore).size_le
      rw [hadds.size_eq] at hsize
      omega

/-! ## Look-ups -/

section

variable {t : TypeTree} {a b c id : TypeId} {node : TypeNode} {name : String}

theorem name_of_node? (h : t.node? id = some node) : t.name id = node.name := by
  simp [TypeTree.name, h]

theorem parent?_of_node? (h : t.node? id = some node) : t.parent? id = node.parent := by
  simp [parent?, h]

theorem component?_of_node? (h : t.node? id = some node) : t.component? id = node.component := by
  simp [component?, h]

theorem exists_node? (known : t.Known id) : ∃ node, t.node? id = some node :=
  Option.isSome_iff_exists.mp (node?_isSome_iff.mpr known)

theorem known_of_node? (h : t.node? id = some node) : t.Known id :=
  node?_isSome_iff.mp (by simp [h])

theorem name_ne_of_free (indexed : t.Indexed) (free : t.lookup? name = none) (known : t.Known id) :
    t.name id ≠ name := by
  obtain ⟨node, hnode⟩ := exists_node? known
  rw [indexed.lookup?_eq] at free
  rw [name_of_node? hnode]
  simpa using fits_eq_false_of_first? free hnode

theorem component?_ne_of_missing (indexed : t.Indexed) (missing : t.arrayType? c = none) :
    t.component? id ≠ some c := by
  intro h
  obtain ⟨node, hnode, hcomponent⟩ := Option.bind_eq_some_iff.mp h
  rw [indexed.arrayType?_eq] at missing
  have hfits := fits_eq_false_of_first? missing hnode
  simp [hcomponent] at hfits

theorem isSome_arrayType?_of_component? (indexed : t.Indexed) (h : t.component? a = some c) :
    (t.arrayType? c).isSome = true := by
  rw [Option.isSome_iff_ne_none]
  intro missing
  exact component?_ne_of_missing indexed missing h

theorem known_of_isSome_arrayType? (indexed : t.Indexed) (h : (t.arrayType? c).isSome = true) :
    t.Known c := by
  rw [indexed.arrayType?_eq] at h
  obtain ⟨node, hmem, hfits⟩ := isSome_first?_iff.mp h
  obtain ⟨i, hi, rfl⟩ := Array.mem_iff_getElem.mp hmem
  exact Nat.lt_trans (t.component_lt i hi c (beq_iff_eq.mp hfits)) hi

theorem arrayParent_of_parent {p : TypeId} (h : t.parent? c = some p) :
    t.arrayParent c = (t.arrayType? p).getD .root := by
  simp [arrayParent, h]

theorem known_arrayParent (t : TypeTree) (c : TypeId) : t.Known (t.arrayParent c) := by
  cases harray : (t.parent? c).bind t.arrayType? with
  | none => simpa [arrayParent, harray] using t.known_root
  | some q =>
      obtain ⟨p, -, hq⟩ := Option.bind_eq_some_iff.mp harray
      simpa [arrayParent, harray] using known_of_arrayType? hq

end

section

variable {t grown : TypeTree}

theorem Extends.arrayName_eq (h : t.Extends grown) {c : TypeId} (known : t.Known c) :
    grown.arrayName c = t.arrayName c := by
  rw [arrayName, arrayName, h.name_eq known]

theorem Extends.arrayParent_eq (h : t.Extends grown) (before : t.Indexed) (after : grown.Indexed)
    {c : TypeId} (known : t.Known c)
    (above : ∀ p, t.parent? c = some p → (t.arrayType? p).isSome = true) :
    grown.arrayParent c = t.arrayParent c := by
  have hparent := h.parent?_eq known
  cases hp : t.parent? c with
  | none => simp [arrayParent, hparent, hp]
  | some p =>
      obtain ⟨q, hq⟩ := Option.isSome_iff_exists.mp (above p hp)
      simp [arrayParent, hparent, hp, hq, h.arrayType?_eq before after hq]

end

/-! ## One type more -/

section

variable {t grown : TypeTree} {node : TypeNode}

theorem Adds.known_iff (h : t.Adds node grown) (id : TypeId) :
    grown.Known id ↔ t.Known id ∨ id.toNat = t.size := by
  simp only [Known, h.size_eq]
  omega

theorem Adds.node?_of_new (h : t.Adds node grown) {id : TypeId} (new : id.toNat = t.size) :
    grown.node? id = some node := by
  rw [h.node?_eq, if_pos new]

theorem Admits.missing {c : TypeId} (admitted : t.Admits node) (h : node.component = some c) :
    t.arrayType? c = none :=
  (admitted.array c h).2.1

variable (consistent : t.Consistent) (admitted : t.Admits node) (h : t.Adds node grown)

include consistent admitted h

theorem indexed_of_adds : grown.Indexed :=
  h.indexed consistent.indexed admitted.free fun _ => admitted.missing

theorem name_inj_of_adds (a b : TypeId) (ha : grown.Known a) (hb : grown.Known b)
    (hname : grown.name a = grown.name b) : a = b := by
  have extended : t.Extends grown := .of_adds h
  -- the name of the new type was free, and there is only one new type
  have apart (old new : TypeId) (hold : t.Known old) (hnew : new.toNat = t.size) :
      grown.name old ≠ grown.name new := by
    rw [extended.name_eq hold, name_of_node? (h.node?_of_new hnew)]
    exact name_ne_of_free consistent.indexed admitted.free hold
  rcases (h.known_iff a).mp ha with ha | ha <;> rcases (h.known_iff b).mp hb with hb | hb
  · rw [extended.name_eq ha, extended.name_eq hb] at hname
    exact consistent.name_inj a b ha hb hname
  · exact absurd hname (apart a b ha hb)
  · exact absurd hname.symm (apart b a hb ha)
  · exact TypeId.toNat_inj.mp (ha.trans hb.symm)

theorem component_inj_of_adds (a b c : TypeId) (ha : grown.component? a = some c)
    (hb : grown.component? b = some c) : a = b := by
  have extended : t.Extends grown := .of_adds h
  have apart (old new : TypeId) (hold : t.Known old) (hnew : new.toNat = t.size)
      (hcold : grown.component? old = some c) : grown.component? new ≠ some c := by
    rw [extended.component?_eq hold] at hcold
    rw [component?_of_node? (h.node?_of_new hnew)]
    intro hc
    exact component?_ne_of_missing consistent.indexed (admitted.missing hc) hcold
  rcases (h.known_iff a).mp (known_of_component? ha).1 with old | new <;>
    rcases (h.known_iff b).mp (known_of_component? hb).1 with old' | new'
  · rw [extended.component?_eq old] at ha
    rw [extended.component?_eq old'] at hb
    exact consistent.component_inj a b c ha hb
  · exact absurd hb (apart a b old new' ha)
  · exact absurd ha (apart b a old' new hb)
  · exact TypeId.toNat_inj.mp (new.trans new'.symm)

theorem arrays_above_of_adds (c p : TypeId) (harray : (grown.arrayType? c).isSome = true)
    (hp : grown.parent? c = some p) : (grown.arrayType? p).isSome = true := by
  have extended : t.Extends grown := .of_adds h
  have after := indexed_of_adds consistent admitted h
  have hcases : (t.arrayType? c).isSome = true ∨ node.component = some c := by
    rw [h.arrayType?_eq] at harray
    by_cases hnode : node.component = some c
    · exact .inr hnode
    · exact .inl (by simpa [hnode] using harray)
  rcases hcases with hold | hnew
  · rw [extended.parent?_eq (known_of_isSome_arrayType? consistent.indexed hold)] at hp
    exact extended.isSome_arrayType? consistent.indexed after
      (consistent.arrays_above c p hold hp)
  · obtain ⟨known, -, -, -, above⟩ := admitted.array c hnew
    rw [extended.parent?_eq known] at hp
    exact extended.isSome_arrayType? consistent.indexed after (above p hp)

theorem array_of_adds (a c : TypeId) (hc : grown.component? a = some c) :
    grown.name a = grown.arrayName c ∧ grown.parent? a = some (grown.arrayParent c) := by
  have extended : t.Extends grown := .of_adds h
  have after := indexed_of_adds consistent admitted h
  rcases (h.known_iff a).mp (known_of_component? hc).1 with old | new
  · rw [extended.component?_eq old] at hc
    have known := (known_of_component? hc).2
    have above := consistent.arrays_above c
    have harray := isSome_arrayType?_of_component? consistent.indexed hc
    rw [extended.name_eq old, extended.parent?_eq old, extended.arrayName_eq known,
      extended.arrayParent_eq consistent.indexed after known fun p => above p harray]
    exact ⟨consistent.array_name a c hc, consistent.array_parent a c hc⟩
  · have hnode := h.node?_of_new new
    rw [component?_of_node? hnode] at hc
    obtain ⟨known, -, hname, hparent, above⟩ := admitted.array c hc
    rw [name_of_node? hnode, parent?_of_node? hnode, extended.arrayName_eq known,
      extended.arrayParent_eq consistent.indexed after known above]
    exact ⟨hname, hparent⟩

theorem parent?_eq_none_iff_of_adds (id : TypeId) (known : grown.Known id) :
    grown.parent? id = none ↔ id = .root := by
  have extended : t.Extends grown := .of_adds h
  rcases (h.known_iff id).mp known with old | new
  · rw [extended.parent?_eq old]
    exact consistent.parent?_eq_none_iff id old
  · obtain ⟨p, hparent, -⟩ := admitted.extends_known
    have hroot : id ≠ .root := by
      rintro rfl
      exact absurd new (Nat.ne_of_lt t.known_root)
    simp [parent?_of_node? (h.node?_of_new new), hparent, hroot]

theorem Consistent.of_adds : grown.Consistent where
  indexed := indexed_of_adds consistent admitted h
  parent?_eq_none_iff := parent?_eq_none_iff_of_adds consistent admitted h
  name_inj := name_inj_of_adds consistent admitted h
  component_inj := component_inj_of_adds consistent admitted h
  array_name a c hc := (array_of_adds consistent admitted h a c hc).1
  array_parent a c hc := (array_of_adds consistent admitted h a c hc).2
  arrays_above := arrays_above_of_adds consistent admitted h

end

theorem Grows.consistent {t grown : TypeTree} (h : t.Grows grown) (consistent : t.Consistent) :
    grown.Consistent := by
  induction h with
  | refl => exact consistent
  | tail _ hlast ih =>
      obtain ⟨node, admitted, hadds⟩ := hlast
      exact .of_adds ih admitted hadds

/-! ## The tree of the root alone -/

theorem known_initial_iff (id : TypeId) : initial.Known id ↔ id = .root := by
  rw [← TypeId.toNat_inj]
  exact Nat.lt_one_iff

theorem component?_initial (id : TypeId) : initial.component? id = none := by
  cases hnode : initial.node? id with
  | none => simp [component?, hnode]
  | some node =>
      obtain rfl := (known_initial_iff id).mp (known_of_node? hnode)
      rfl

theorem initial_indexed : initial.Indexed where
  lookup?_eq name := by
    by_cases hname : name = "Object"
    · simp [lookup?, first?, initial, hname, TypeId.root, TypeId.ofNat]
    · simp [lookup?, first?, initial, List.lookup_cons, beq_false_of_ne hname, Ne.symm hname]
  arrayType?_eq c := by simp [arrayType?, first?, initial]

theorem initial_consistent : initial.Consistent where
  indexed := initial_indexed
  parent?_eq_none_iff id known := by
    obtain rfl := (known_initial_iff id).mp known
    exact iff_of_true rfl rfl
  name_inj a b ha hb _ := by
    rw [(known_initial_iff a).mp ha, (known_initial_iff b).mp hb]
  component_inj a b c ha := by simp [component?_initial] at ha
  array_name a c ha := by simp [component?_initial] at ha
  array_parent a c ha := by simp [component?_initial] at ha
  arrays_above c p hc hp := by
    obtain rfl := (known_initial_iff c).mp (known_of_parent? hp).1
    exact nomatch hp

end Provision.TypeTree
