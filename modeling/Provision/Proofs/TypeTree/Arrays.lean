import Mathlib.Data.List.Nodup
import Provision.Proofs.TypeTree.Chain
import Provision.Proofs.TypeTree.Consistent

/-! # Arrays made on first use

An array is made after those above it. What is missing of them is a stretch of the walk upward, and
is made from its far end. -/

namespace Provision.TypeTree

/-- The array of a type, below the array of what the type extends. -/
def arrayNode (t : TypeTree) (c : TypeId) : TypeNode :=
  ⟨t.arrayName c, some (t.arrayParent c), some c⟩

theorem arrayName_inj {t : TypeTree} (consistent : t.Consistent) {a b : TypeId} (ha : t.Known a)
    (hb : t.Known b) (h : t.arrayName a = t.arrayName b) : a = b :=
  consistent.name_inj a b ha hb ((String.append_left_inj "[]").mp h)

/-! ## One array -/

section

variable {t : TypeTree} {c parent : TypeId} (hc : t.Known c) (hp : t.Known parent)

theorem addArray_of_taken (taken : (t.lookup? (t.arrayName c)).isSome = true) :
    (t.addArray c parent hc hp).tree = t ∧
      (t.addArray c parent hc hp).result = .error (.duplicateName (t.arrayName c)) := by
  simp [addArray, taken]

theorem addArray_of_free (free : t.lookup? (t.arrayName c) = none) :
    t.Adds ⟨t.arrayName c, some parent, some c⟩ (t.addArray c parent hc hp).tree ∧
      (t.addArray c parent hc hp).result = .ok t.nextId := by
  simp only [addArray, free]
  exact ⟨⟨rfl, rfl, rfl⟩, rfl⟩

end

/-! ## Arrays one after the other -/

/-- A tree has become another by the arrays of some types, in that order. -/
structure Made (t grown : TypeTree) (made : List TypeId) : Prop where
  grows : t.Grows grown
  known : ∀ a ∈ made, t.Known a
  nodes_eq : grown.nodes.toList = t.nodes.toList ++ made.map grown.arrayNode
  free : ∀ a ∈ made, t.lookup? (t.arrayName a) = none

theorem Extends.arrayNode_eq {t grown : TypeTree} {c : TypeId} (h : t.Extends grown)
    (before : t.Indexed) (after : grown.Indexed) (known : t.Known c)
    (above : ∀ p, t.parent? c = some p → (t.arrayType? p).isSome = true) :
    grown.arrayNode c = t.arrayNode c := by
  rw [arrayNode, arrayNode, h.arrayName_eq known, h.arrayParent_eq before after known above]

namespace Made

variable {t grown last : TypeTree} {c : TypeId} {made : List TypeId}

theorem nil (t : TypeTree) : t.Made t [] where
  grows := .refl
  known := by simp
  nodes_eq := by simp
  free := by simp

theorem eq_iff (h : t.Made grown made) : grown = t ↔ made = [] := by
  constructor
  · rintro rfl
    simpa using h.nodes_eq
  · rintro rfl
    refine h.grows.eq_of_size_eq ?_
    have hlength := congrArg List.length h.nodes_eq
    simpa [size] using hlength

variable (consistent : t.Consistent) (h : t.Made grown made)

include consistent h

theorem isSome_arrayType? (hc : c ∈ made) : (grown.arrayType? c).isSome = true := by
  rw [(h.grows.consistent consistent).indexed.arrayType?_eq]
  have hmem : grown.arrayNode c ∈ grown.nodes.toList := by
    rw [h.nodes_eq]
    exact List.mem_append_right _ (List.mem_map_of_mem hc)
  exact isSome_first?_iff.mpr ⟨_, Array.mem_toList_iff.mp hmem, beq_self_eq_true _⟩

theorem lookup?_arrayName_eq (known : t.Known c) (fresh : c ∉ made) :
    grown.lookup? (t.arrayName c) = t.lookup? (t.arrayName c) := by
  rw [(h.grows.consistent consistent).indexed.lookup?_eq, consistent.indexed.lookup?_eq]
  refine first?_of_append h.nodes_eq ?_
  intro node hnode
  obtain ⟨b, hb, rfl⟩ := List.mem_map.mp hnode
  have hname : t.arrayName b ≠ t.arrayName c := by
    intro heq
    obtain rfl := arrayName_inj consistent (h.known b hb) known heq
    exact fresh hb
  simpa [arrayNode, h.grows.extends.arrayName_eq (h.known b hb)] using hname

theorem arrayType?_eq (fresh : c ∉ made) : grown.arrayType? c = t.arrayType? c := by
  rw [(h.grows.consistent consistent).indexed.arrayType?_eq, consistent.indexed.arrayType?_eq]
  refine first?_of_append h.nodes_eq ?_
  intro node hnode
  obtain ⟨b, hb, rfl⟩ := List.mem_map.mp hnode
  have hne : b ≠ c := fun heq => fresh (heq ▸ hb)
  simpa [arrayNode] using hne

/-- The array of another type may come next, where its name is free and the one above it is
there. -/
theorem admits (known : t.Known c) (fresh : c ∉ made) (missing : t.arrayType? c = none)
    (free : t.lookup? (t.arrayName c) = none)
    (above : ∀ p, t.parent? c = some p → (grown.arrayType? p).isSome = true) :
    grown.Admits (grown.arrayNode c) where
  free := by
    rw [arrayNode, h.grows.extends.arrayName_eq known,
      h.lookup?_arrayName_eq consistent known fresh, free]
  extends_known := ⟨_, rfl, grown.known_arrayParent c⟩
  array d hd := by
    obtain rfl : c = d := Option.some.inj hd
    refine ⟨h.grows.extends.known known, ?_, rfl, rfl, ?_⟩
    · rw [h.arrayType?_eq consistent fresh, missing]
    · intro p hp
      exact above p ((h.grows.extends.parent?_eq known).symm.trans hp)

theorem concat (known : t.Known c) (fresh : c ∉ made) (missing : t.arrayType? c = none)
    (free : t.lookup? (t.arrayName c) = none)
    (above : ∀ p, t.parent? c = some p → (grown.arrayType? p).isSome = true)
    (adds : grown.Adds (grown.arrayNode c) last) : t.Made last (made ++ [c]) := by
  have admitted := h.admits consistent known fresh missing free above
  have hgrown := h.grows.consistent consistent
  have hlast : last.Consistent := .of_adds hgrown admitted adds
  have extended : grown.Extends last := .of_adds adds
  have hnode : ∀ b ∈ made ++ [c], last.arrayNode b = grown.arrayNode b := by
    intro b hb
    refine extended.arrayNode_eq hgrown.indexed hlast.indexed ?_ ?_
    · rcases List.mem_append.mp hb with hb | hb
      · exact h.grows.extends.known (h.known b hb)
      · obtain rfl := List.mem_singleton.mp hb
        exact h.grows.extends.known known
    · intro p hp
      rcases List.mem_append.mp hb with hb | hb
      · exact hgrown.arrays_above b p (h.isSome_arrayType? consistent hb) hp
      · obtain rfl := List.mem_singleton.mp hb
        exact above p ((h.grows.extends.parent?_eq known).symm.trans hp)
  refine ⟨.tail h.grows ⟨_, admitted, adds⟩, ?_, ?_, ?_⟩
  · intro a ha
    rcases List.mem_append.mp ha with ha | ha
    · exact h.known a ha
    · exact List.mem_singleton.mp ha ▸ known
  · rw [List.map_congr_left hnode, adds.nodes, Array.toList_push, h.nodes_eq]
    simp
  · intro a ha
    rcases List.mem_append.mp ha with ha | ha
    · exact h.free a ha
    · exact List.mem_singleton.mp ha ▸ free

end Made

/-! ## What is missing above a type -/

/-- The types whose arrays are made for that of `c`, in the order in which this is done. -/
def unmade (t : TypeTree) (c : TypeId) : List TypeId :=
  ((t.ancestors c).takeWhile fun a => (t.arrayType? a).isNone).reverse

section

variable {t : TypeTree} {a c : TypeId}

theorem unmade_of_made (h : (t.arrayType? c).isSome = true) : t.unmade c = [] := by
  by_cases known : t.Known c
  · obtain ⟨above, habove⟩ := ancestors_eq_cons known
    have hsome : (t.arrayType? c).isNone = false := by simpa using h
    simp [unmade, habove, hsome]
  · rw [unmade, ancestors, if_neg known]
    rfl

theorem unmade_of_parent {p : TypeId} (known : t.Known c) (missing : t.arrayType? c = none)
    (hp : t.parent? c = some p) : t.unmade c = t.unmade p ++ [c] := by
  simp [unmade, ancestors_eq_of_parent known hp, missing]

theorem unmade_of_no_parent (known : t.Known c) (missing : t.arrayType? c = none)
    (hp : t.parent? c = none) : t.unmade c = [c] := by
  simp [unmade, ancestors_eq_of_no_parent known hp, missing]

theorem unmade_nodup (t : TypeTree) (c : TypeId) : (t.unmade c).Nodup :=
  List.nodup_reverse.mpr ((ancestors_nodup t c).sublist (List.takeWhile_sublist _))

theorem isSome_arrayType?_of_mem_ancestors (consistent : t.Consistent) (ha : a ∈ t.ancestors c)
    (harray : (t.arrayType? c).isSome = true) : (t.arrayType? a).isSome = true := by
  fun_induction ancestors t c with
  | case1 id known p hp ih =>
      rcases List.mem_cons.mp ha with rfl | ha
      · exact harray
      · exact ih ha (consistent.arrays_above id p harray hp)
  | case2 id known hp =>
      obtain rfl := List.mem_singleton.mp ha
      exact harray
  | case3 id unknown => simp at ha

/-- All that is missing above a type is made. -/
theorem unmade_eq_filter (consistent : t.Consistent) (c : TypeId) :
    t.unmade c = ((t.ancestors c).filter fun a => (t.arrayType? a).isNone).reverse := by
  rw [unmade]
  congr 1
  fun_induction ancestors t c with
  | case1 id known p hp ih =>
      cases hid : t.arrayType? id with
      | none => simp [hid, ih]
      | some k =>
          have habove : ∀ a ∈ t.ancestors p, (t.arrayType? a).isSome = true := fun a ha =>
            isSome_arrayType?_of_mem_ancestors consistent ha
              (consistent.arrays_above id p (by simp [hid]) hp)
          simpa [hid, Option.isSome_iff_ne_none] using habove
  | case2 id known hp => cases hid : t.arrayType? id <;> simp [hid]
  | case3 id unknown => rfl

end

/-! ## The array of a type -/

section

variable {t : TypeTree} {c p k : TypeId} {e : Error}

theorem ArrayRequest.andThen_of_ok {r : t.ArrayRequest} (h : r.result = .ok k)
    (next : ∀ k, r.tree.Known k → r.tree.ArrayRequest) :
    (r.andThen next).tree = (next k (r.known k h)).tree ∧
      (r.andThen next).result = (next k (r.known k h)).result := by
  unfold andThen
  split
  · rename_i l hl
    obtain rfl : k = l := Except.ok.inj (h.symm.trans hl)
    exact ⟨rfl, rfl⟩
  · rename_i hl
    cases h.symm.trans hl

theorem ArrayRequest.andThen_of_error {r : t.ArrayRequest} (h : r.result = .error e)
    (next : ∀ k, r.tree.Known k → r.tree.ArrayRequest) :
    (r.andThen next).tree = r.tree ∧ (r.andThen next).result = .error e := by
  unfold andThen
  split
  · rename_i hl
    cases h.symm.trans hl
  · rename_i hl
    exact ⟨rfl, hl.symm.trans h⟩

theorem arrayOf_of_unknown (unknown : ¬ t.Known c) :
    t.arrayOf c = (t, .error (.unknownType c)) := by
  rw [arrayOf, requestArray, dif_neg unknown]

theorem arrayOf_of_made (known : t.Known c) (h : t.arrayType? c = some k) :
    t.arrayOf c = (t, .ok k) := by
  rw [arrayOf, requestArray, dif_pos known]
  split
  · rename_i l hl
    obtain rfl := Option.some.inj (h.symm.trans hl)
    rfl
  · rename_i hnone
    cases h.symm.trans hnone

/-- What comes of asking for an array: it is there in the end, with all that was missing above it,
or a name on the way is taken, and what was made by then stays. -/
inductive Requested (t : TypeTree) (c : TypeId) : TypeTree → Except Error TypeId → Prop
  | made {grown : TypeTree} {k : TypeId} (array : grown.arrayType? c = some k)
      (made : t.Made grown (t.unmade c)) : Requested t c grown (.ok k)
  | stopped {grown : TypeTree} {before rest : List TypeId} {a : TypeId}
      (split : t.unmade c = before ++ a :: rest) (made : t.Made grown before)
      (taken : (t.lookup? (t.arrayName a)).isSome = true) :
      Requested t c grown (.error (.duplicateName (t.arrayName a)))

theorem Requested.exists_made {grown : TypeTree} {result : Except Error TypeId}
    (h : t.Requested c grown result) : ∃ made, t.Made grown made := by
  cases h with
  | made array made => exact ⟨_, made⟩
  | stopped split made taken => exact ⟨_, made⟩

/-- After all arrays above that of a type comes its own. -/
theorem Made.requested {grown : TypeTree} {made : List TypeId} {parent : TypeId}
    (h : t.Made grown made) (consistent : t.Consistent) (known : t.Known c)
    (missing : t.arrayType? c = none) (split : t.unmade c = made ++ [c])
    (hparent : grown.arrayParent c = parent)
    (above : ∀ p, t.parent? c = some p → (grown.arrayType? p).isSome = true)
    (hc : grown.Known c) (hp : grown.Known parent) :
    t.Requested c (grown.addArray c parent hc hp).tree (grown.addArray c parent hc hp).result := by
  have fresh : c ∉ made := by
    have hnodup : (made ++ [c]).Nodup := split ▸ unmade_nodup t c
    exact fun hmem => List.disjoint_of_nodup_append hnodup hmem (List.mem_singleton_self c)
  have hname := h.grows.extends.arrayName_eq known
  have hlookup := h.lookup?_arrayName_eq consistent known fresh
  cases hfree : t.lookup? (t.arrayName c) with
  | some k =>
      have taken : (grown.lookup? (grown.arrayName c)).isSome = true := by
        simp [hname, hlookup, hfree]
      obtain ⟨htree, hresult⟩ := addArray_of_taken hc hp taken
      rw [htree, hresult, hname]
      exact .stopped split h (by simp [hfree])
  | none =>
      have free : grown.lookup? (grown.arrayName c) = none := by rw [hname, hlookup, hfree]
      obtain ⟨hadds, hresult⟩ := addArray_of_free hc hp free
      rw [hresult]
      refine .made (by simp [hadds.arrayType?_eq]) (split ▸ ?_)
      subst hparent
      exact h.concat consistent known fresh missing hfree above hadds

/-- Below an array that was asked for comes that of a type. Where the one above was not made, no
more is made. -/
theorem Requested.andThen {r : t.ArrayRequest} (h : t.Requested p r.tree r.result)
    (consistent : t.Consistent) (known : t.Known c) (missing : t.arrayType? c = none)
    (hp : t.parent? c = some p) (hc : r.tree.Known c) :
    t.Requested c (r.andThen fun above => r.tree.addArray c above hc).tree
      (r.andThen fun above => r.tree.addArray c above hc).result := by
  have hsplit := unmade_of_parent known missing hp
  cases hresult : r.result with
  | ok k =>
      obtain ⟨htree, hlast⟩ :=
        ArrayRequest.andThen_of_ok hresult fun above => r.tree.addArray c above hc
      rw [htree, hlast]
      rw [hresult] at h
      cases h with
      | made array hmade =>
          have hparent := (hmade.grows.extends.parent?_eq known).trans hp
          refine hmade.requested consistent known missing hsplit ?_ ?_ _ _
          · simp [arrayParent_of_parent hparent, array]
          · intro q hq
            obtain rfl := Option.some.inj (hp.symm.trans hq)
            simp [array]
  | error e =>
      obtain ⟨htree, hlast⟩ :=
        ArrayRequest.andThen_of_error hresult fun above => r.tree.addArray c above hc
      rw [htree, hlast]
      rw [hresult] at h
      cases h with
      | @stopped before rest a split hmade taken =>
          have hlonger : t.unmade c = before ++ a :: (rest ++ [c]) := by simp [hsplit, split]
          exact .stopped hlonger hmade taken

/-- The walk goes up to an array that is there, or to the root, and makes arrays on the way back. -/
theorem requestArray_spec (consistent : t.Consistent) (c : TypeId) (known : t.Known c) :
    t.Requested c (t.requestArray c).tree (t.requestArray c).result := by
  rw [requestArray, dif_pos known]
  split
  · rename_i k hk
    have hmade : (t.arrayType? c).isSome = true := by simp [hk]
    exact .made hk (unmade_of_made hmade ▸ .nil t)
  · rename_i missing
    split
    · rename_i hp
      have hroot : t.arrayParent c = .root := by simp [arrayParent, hp]
      have above : ∀ p, t.parent? c = some p → (t.arrayType? p).isSome = true := by simp [hp]
      exact (Made.nil t).requested consistent known missing
        (unmade_of_no_parent known missing hp) hroot above known t.known_root
    · rename_i p hp
      have ih := requestArray_spec consistent p (known_of_parent? hp).2
      exact ih.andThen consistent known missing hp _
termination_by c.toNat
decreasing_by exact parent_toNat_lt ‹_›

theorem arrayOf_spec (consistent : t.Consistent) (known : t.Known c) :
    t.Requested c (t.arrayOf c).1 (t.arrayOf c).2 :=
  requestArray_spec consistent c known

end

end Provision.TypeTree
