import Provision.Proofs.TypeTree.Chain
import Provision.Proofs.TypeTree.Run

/-! # Arrays are covariant

Above an array stand the arrays of all that stands above its elements, and then the root. So arrays
are as far from each other as their elements, however deeply they nest. With types that are no
arrays they have only the root in common. -/

namespace Provision.TypeTree

/-- An array extends an array whose component its own component extends. -/
def ArraysExtend (t : TypeTree) : Prop :=
  ∀ k c p, t.component? k = some c → t.parent? c = some p →
    ∃ q, t.parent? k = some q ∧ t.component? q = some p

/-- Nothing but an array extends an array. -/
def ArraysApart (t : TypeTree) : Prop :=
  ∀ id p, t.parent? id = some p → t.isArray p = true → t.isArray id = true

theorem isArray_of_component? {t : TypeTree} {k c : TypeId} (h : t.component? k = some c) :
    t.isArray k = true := by
  simp [isArray, h]

/-! ## Growth -/

section

variable {t grown : TypeTree} {node : TypeNode}

theorem Extends.isArray_eq {id : TypeId} (h : t.Extends grown) (known : t.Known id) :
    grown.isArray id = t.isArray id := by
  rw [isArray, isArray, h.component?_eq known]

/-- A new array has a number of its own, and so has the array above it, which is older. -/
theorem ArraysExtend.of_adds (h : t.ArraysExtend) (indexed : t.Indexed) (admitted : t.Admits node)
    (adds : t.Adds node grown) : grown.ArraysExtend := by
  intro k c p hk hp
  have extended : t.Extends grown := .of_adds adds
  rcases (adds.known_iff k).mp (known_of_component? hk).1 with old | new
  · rw [extended.component?_eq old] at hk
    rw [extended.parent?_eq (known_of_component? hk).2] at hp
    obtain ⟨q, hq, hcomponent⟩ := h k c p hk hp
    refine ⟨q, (extended.parent?_eq old).trans hq, ?_⟩
    rw [extended.component?_eq (known_of_parent? hq).2, hcomponent]
  · have hnode := adds.node?_of_new new
    rw [component?_of_node? hnode] at hk
    obtain ⟨known, -, -, hparent, above⟩ := admitted.array c hk
    rw [extended.parent?_eq known] at hp
    obtain ⟨q, hq⟩ := Option.isSome_iff_exists.mp (above p hp)
    have bound : t.size ≤ UInt32.size := new ▸ Nat.le_of_lt k.index.toNat_lt
    have hfirst := (indexed.arrayType?_eq p).symm.trans hq
    obtain ⟨found, hfound, hfits⟩ := node?_of_first? bound hfirst
    refine ⟨q, ?_, ?_⟩
    · rw [parent?_of_node? hnode, hparent, arrayParent_of_parent hp, hq, Option.getD_some]
    · rw [extended.component?_eq (known_of_node? hfound), component?_of_node? hfound]
      exact beq_iff_eq.mp hfits

theorem Grows.arraysExtend (h : t.Grows grown) (consistent : t.Consistent)
    (arrays : t.ArraysExtend) : grown.ArraysExtend := by
  induction h with
  | refl => exact arrays
  | tail hbefore hlast ih =>
      obtain ⟨node, admitted, hadds⟩ := hlast
      exact ih.of_adds (Grows.consistent hbefore consistent).indexed admitted hadds

theorem ArraysApart.of_extends (h : t.ArraysApart) (extended : t.Extends grown)
    (new : ∀ id p, ¬t.Known id → grown.parent? id = some p → grown.isArray p = true →
      grown.isArray id = true) : grown.ArraysApart := by
  intro id p hp harray
  by_cases known : t.Known id
  · rw [extended.parent?_eq known] at hp
    rw [extended.isArray_eq (known_of_parent? hp).2] at harray
    rw [extended.isArray_eq known]
    exact h id p hp harray
  · exact new id p known hp harray

theorem Made.isArray_of_new {made : List TypeId} {id : TypeId} (h : t.Made grown made)
    (known : grown.Known id) (new : ¬t.Known id) : grown.isArray id = true := by
  obtain ⟨node, hnode⟩ := exists_node? known
  have hplace : grown.nodes.toList[id.toNat]? = some node := by
    rw [Array.getElem?_toList]
    exact hnode
  have hle : t.nodes.toList.length ≤ id.toNat := Nat.not_lt.mp new
  rw [h.nodes_eq, List.getElem?_append_right hle] at hplace
  obtain ⟨c, -, rfl⟩ := List.mem_map.mp (List.mem_of_getElem? hplace)
  exact isArray_of_component? (component?_of_node? hnode)

theorem ArraysApart.step (h : t.ArraysApart) (consistent : t.Consistent) (op : Operation) :
    (t.step op).1.ArraysApart := by
  have extended := (step_grows consistent op).extends
  refine h.of_extends extended ?_
  intro id p new hp harray
  cases op with
  | define name parent =>
      rw [TypeTree.step] at hp harray extended
      rcases define_cases t name parent with ⟨e, hfailed⟩ | ⟨grown, hdefine, single, admitted, adds⟩
      · rw [hfailed] at hp
        exact absurd (known_of_parent? hp).1 new
      · -- the only new type extends `parent`, which is no array
        rw [hdefine] at hp harray extended
        have hlast := ((adds.known_iff id).mp (known_of_parent? hp).1).resolve_left new
        rw [parent?_of_node? (adds.node?_of_new hlast)] at hp
        obtain rfl : parent = p := Option.some.inj hp
        obtain ⟨q, hq, known⟩ := admitted.extends_known
        obtain rfl : parent = q := Option.some.inj hq
        rw [extended.isArray_eq known, single] at harray
        cases harray
  | arrayOf c =>
      by_cases known : t.Known c
      · obtain ⟨made, hmade⟩ := (arrayOf_spec consistent known).exists_made
        exact hmade.isArray_of_new (known_of_parent? hp).1 new
      · simp only [TypeTree.step, arrayOf_of_unknown known] at hp
        exact absurd (known_of_parent? hp).1 new

theorem ArraysApart.run (h : t.ArraysApart) (consistent : t.Consistent) (ops : List Operation) :
    (t.run ops).ArraysApart := by
  induction ops generalizing t with
  | nil => exact h
  | cons op ops ih =>
      exact ih (h.step consistent op) ((step_grows consistent op).consistent consistent)

theorem Reachable.arraysExtend (h : t.Reachable) : t.ArraysExtend := by
  obtain ⟨ops, rfl⟩ := h
  refine (run_grows initial_consistent ops).arraysExtend initial_consistent ?_
  intro k c p hk
  simp [component?_initial] at hk

theorem Reachable.arraysApart (h : t.Reachable) : t.ArraysApart := by
  obtain ⟨ops, rfl⟩ := h
  refine ArraysApart.run ?_ initial_consistent ops
  intro id p _ harray
  simp [isArray, component?_initial] at harray

end

/-! ## Above an array -/

section

variable {t : TypeTree} {a b c k l : TypeId}

theorem isArray_root (t : TypeTree) : t.isArray .root = false := by
  cases h : t.component? .root with
  | none => simp [isArray, h]
  | some c => exact absurd (component_toNat_lt h) (Nat.not_lt_zero _)

/-- The walk upward from an array follows that from its component, and ends one step later. -/
theorem exists_ancestors_array (consistent : t.Consistent) (arrays : t.ArraysExtend)
    (h : t.component? k = some c) :
    ∃ ks, t.ancestors k = ks ++ [.root] ∧ ks.map t.component? = (t.ancestors c).map some := by
  have known := (known_of_component? h).1
  fun_induction ancestors t c generalizing k with
  | case1 c _ p hp ih =>
      obtain ⟨q, hq, hcomponent⟩ := arrays k c p h hp
      obtain ⟨ks, hks, hmap⟩ := ih hcomponent (known_of_component? hcomponent).1
      refine ⟨k :: ks, ?_, ?_⟩
      · rw [ancestors_eq_of_parent known hq, hks, List.cons_append]
      · rw [List.map_cons, List.map_cons, h, hmap]
  | case2 c _ hp =>
      have hroot : t.parent? .root = none :=
        (consistent.parent?_eq_none_iff .root t.known_root).mpr rfl
      have hparent : t.parent? k = some .root := by
        rw [consistent.array_parent k c h]
        simp [arrayParent, hp]
      refine ⟨[k], ?_, by simp [h]⟩
      rw [ancestors_eq_of_parent known hparent, ancestors_eq_of_no_parent t.known_root hroot]
      rfl
  | case3 c unknown => exact absurd (known_of_component? h).2 unknown

theorem distance?_array (consistent : t.Consistent) (arrays : t.ArraysExtend)
    (hk : t.component? k = some a) (hl : t.component? l = some b) :
    t.distance? k l = t.distance? a b := by
  obtain ⟨ks, hks, hmap⟩ := exists_ancestors_array consistent arrays hl
  have hplace (n : Nat) : (ks[n]?).map t.component? = ((t.ancestors b)[n]?).map some := by
    rw [← List.getElem?_map, hmap, List.getElem?_map]
  have hroot : k ≠ .root := by
    rintro rfl
    exact absurd (isArray_of_component? hk) (by simp [isArray_root])
  ext n
  rw [distance?_eq_some_iff, distance?_eq_some_iff, hks]
  constructor
  · intro h
    have hget : ks[n]? = some k := by
      rw [List.getElem?_append] at h
      split at h
      · exact h
      · have hmem := List.mem_singleton.mp (List.mem_of_getElem? h)
        exact absurd hmem hroot
    simpa [hget, hk] using (hplace n).symm
  · intro h
    have hget : (ks[n]?).map t.component? = some (some a) := by rw [hplace, h, Option.map_some]
    obtain ⟨other, hother, hcomponent⟩ := Option.map_eq_some_iff.mp hget
    obtain rfl := consistent.component_inj other k a hcomponent hk
    rw [List.getElem?_append_left (List.getElem?_eq_some_iff.mp hother).1]
    exact hother

/-! ## Nested arrays -/

/-- The type that so many steps along components lead to. -/
def inner? (t : TypeTree) : Nat → TypeId → Option TypeId
  | 0, id => some id
  | n + 1, id => (t.component? id).bind (t.inner? n)

theorem distance?_nested (consistent : t.Consistent) (arrays : t.ArraysExtend) {n : Nat}
    (hk : t.inner? n k = some a) (hl : t.inner? n l = some b) :
    t.distance? k l = t.distance? a b := by
  induction n generalizing k l with
  | zero =>
      obtain rfl := Option.some.inj hk
      obtain rfl := Option.some.inj hl
      rfl
  | succ n ih =>
      obtain ⟨c, hc, hkc⟩ := Option.bind_eq_some_iff.mp hk
      obtain ⟨d, hd, hld⟩ := Option.bind_eq_some_iff.mp hl
      rw [distance?_array consistent arrays hc hd, ih hkc hld]

/-! ## Arrays and other types -/

theorem ArraysApart.isArray_of_mem_ancestors (h : t.ArraysApart) (ha : a ∈ t.ancestors b)
    (harray : t.isArray a = true) : t.isArray b = true := by
  fun_induction ancestors t b with
  | case1 b _ p hp ih =>
      rcases List.mem_cons.mp ha with rfl | ha
      · exact harray
      · exact h b p hp (ih ha)
  | case2 b _ hp =>
      obtain rfl := List.mem_singleton.mp ha
      exact harray
  | case3 b unknown => simp at ha

/-- An array has nothing in common with a type that is none, unless that is the root. -/
theorem related_array_iff (consistent : t.Consistent) (arrays : t.ArraysExtend)
    (apart : t.ArraysApart) (hk : t.isArray k = true) (ha : t.isArray a = false) :
    t.related k a = true ↔ a = .root := by
  obtain ⟨c, hc⟩ := Option.isSome_iff_exists.mp hk
  obtain ⟨ks, hks, hmap⟩ := exists_ancestors_array consistent arrays hc
  rw [related_iff, subsumes_iff_mem_ancestors, subsumes_iff_mem_ancestors, hks]
  constructor
  · rintro (habove | hbelow)
    · rw [apart.isArray_of_mem_ancestors habove hk] at ha
      cases ha
    · rcases List.mem_append.mp hbelow with hmem | hroot
      · have hcomponent := List.mem_map_of_mem (f := t.component?) hmem
        rw [hmap] at hcomponent
        obtain ⟨d, -, hd⟩ := List.mem_map.mp hcomponent
        rw [isArray_of_component? hd.symm] at ha
        cases ha
      · exact List.mem_singleton.mp hroot
  · rintro rfl
    exact .inr (by simp)

/-- Arrays of the same depth are as far from each other as what they hold in the end, or as little
related. The types above an array are the arrays of those above its component, in their order, and
then the root, which is the only type without components that an array is related to. -/
theorem arrays_follow_elements (reachable : t.Reachable) :
    (∀ n a b k l, t.inner? n k = some a → t.inner? n l = some b →
      t.distance? k l = t.distance? a b) ∧
    (∀ l b, t.component? l = some b → ∃ ks, t.ancestors l = ks ++ [.root] ∧
      ks.map t.component? = (t.ancestors b).map some) ∧
    ∀ k a, t.isArray k = true → t.isArray a = false → (t.related k a = true ↔ a = .root) := by
  have consistent := reachable.consistent
  have arrays := reachable.arraysExtend
  refine ⟨?_, ?_, ?_⟩
  · intro n a b k l hk hl
    exact distance?_nested consistent arrays hk hl
  · intro l b hl
    exact exists_ancestors_array consistent arrays hl
  · intro k a hk ha
    exact related_array_iff consistent arrays reachable.arraysApart hk ha

end

/-- Players, admins among them, and arrays of arrays of admins with all that these extend. -/
def teams : TypeTree := players.run [.arrayOf admin, .arrayOf (.ofNat 5)]

/-- Arrays of arrays of admins are below those of players and of everything, then below the arrays
of everything. Players are none of these. -/
theorem teams_follow_admins :
    teams.distance? (.ofNat 6) (.ofNat 8) = some 2 ∧
      (∃ ks, teams.ancestors (.ofNat 8) = ks ++ [.root] ∧
        ks.map teams.component? = [some (.ofNat 5), some (.ofNat 4), some (.ofNat 3), some .root]) ∧
      teams.related (.ofNat 8) player = false := by
  have reachable : teams.Reachable :=
    ⟨[.define "Player" .root, .define "Admin" player, .arrayOf player, .arrayOf admin,
      .arrayOf (.ofNat 5)], rfl⟩
  obtain ⟨hdistance, habove, hrelated⟩ := arrays_follow_elements reachable
  have hadmins : teams.distance? .root admin = some 2 := by decide +kernel
  have hcomponents : (teams.ancestors (.ofNat 5)).map some =
      [some (.ofNat 5), some (.ofNat 4), some (.ofNat 3), some .root] := by decide +kernel
  obtain ⟨ks, hks, hmap⟩ := habove (.ofNat 8) (.ofNat 5) (by decide +kernel)
  refine ⟨?_, ⟨ks, hks, hmap.trans hcomponents⟩, ?_⟩
  · rw [hdistance 2 .root admin _ _ (by decide +kernel) (by decide +kernel), hadmins]
  · rw [← Bool.not_eq_true, hrelated _ _ (by decide +kernel) (by decide +kernel)]
    decide +kernel

end Provision.TypeTree
