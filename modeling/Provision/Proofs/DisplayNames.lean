import Provision.Lexicon
import Provision.Proofs.TypeTree.Covariance

/-! # What types go by

An array goes by the plural of what it holds in the end. Any other type goes by the closest naming
above it, or by its own name if there is none. Components and parents have smaller numbers, so that
the search for a name is short. -/

namespace Provision

theorem TypeTree.exists_innermost (t : TypeTree) (id : TypeId) :
    ∃ n e, t.inner? n id = some e ∧ t.isArray e = false := by
  induction hid : id.toNat using Nat.strongRecOn generalizing id with
  | ind number ih =>
      subst hid
      cases hc : t.component? id with
      | none => exact ⟨0, id, rfl, by simp [isArray, hc]⟩
      | some c =>
          obtain ⟨n, e, hinner, single⟩ := ih c.toNat (component_toNat_lt hc) c rfl
          exact ⟨n + 1, e, by rw [inner?, hc, Option.bind_some, hinner], single⟩

namespace Lexicon

variable {lex : Lexicon} {t : TypeTree} {id e : TypeId} {naming : Naming} {plural : Bool} {n : Nat}

/-! ## The closest naming -/

/-- A type at or above `id` has this naming, and none that is closer to `id` has any. -/
def Closest (lex : Lexicon) (t : TypeTree) (id : TypeId) (naming : Naming) : Prop :=
  ∃ a n, t.distance? a id = some n ∧ lex.naming? a = some naming ∧
    ∀ b m, t.distance? b id = some m → (lex.naming? b).isSome = true → n ≤ m

theorem nearest?_eq_none_iff :
    lex.nearest? t id = none ↔ ∀ a, t.subsumes a id = true → lex.naming? a = none := by
  simp [nearest?, TypeTree.subsumes_iff_mem_ancestors]

theorem closest_of_nearest? (h : lex.nearest? t id = some naming) : lex.Closest t id naming := by
  obtain ⟨closer, a, farther, hwalk, hnaming, unnamed⟩ := List.findSome?_eq_some_iff.mp h
  refine ⟨a, closer.length, ?_, hnaming, ?_⟩
  · rw [TypeTree.distance?_eq_some_iff, hwalk]
    simp
  · intro b m hb named
    by_contra hlt
    rw [TypeTree.distance?_eq_some_iff, hwalk,
      List.getElem?_append_left (Nat.not_le.mp hlt)] at hb
    rw [unnamed b (List.mem_of_getElem? hb)] at named
    cases named

theorem nearest?_of_closest (h : lex.Closest t id naming) : lex.nearest? t id = some naming := by
  obtain ⟨a, n, ha, hnaming, hleast⟩ := h
  cases hfound : lex.nearest? t id with
  | none =>
      have hsub : t.subsumes a id = true := by simp [TypeTree.subsumes, ha]
      rw [nearest?_eq_none_iff.mp hfound a hsub] at hnaming
      cases hnaming
  | some found =>
      obtain ⟨b, m, hb, hother, hclosest⟩ := closest_of_nearest? hfound
      have hnm : n ≤ m := hleast b m hb (by simp [hother])
      have hmn : m ≤ n := hclosest a n ha (by simp [hnaming])
      obtain rfl := Nat.le_antisymm hnm hmn
      obtain rfl := TypeTree.distance?_inj ha hb
      exact hother.symm.trans hnaming

/-! ## Arrays and other types -/

theorem displayName_array {c : TypeId} (h : t.component? id = some c) (plural : Bool) :
    lex.displayName t id plural = lex.displayName t c true := by
  rw [displayName]
  split
  · rename_i hc
    obtain rfl := Option.some.inj (h.symm.trans hc)
    rfl
  · rename_i hnone
    rw [h] at hnone
    cases hnone

/-- What a type that is no array goes by, given the closest naming. -/
def nounFor (t : TypeTree) (id : TypeId) (plural : Bool) : Option Naming → String
  | some naming => naming.noun plural
  | none =>
    let name := Unicode.lowercased (t.name id)
    if plural then English.plural name else name

theorem displayName_single (h : t.component? id = none) (plural : Bool) :
    lex.displayName t id plural = nounFor t id plural (lex.nearest? t id) := by
  rw [displayName]
  split
  · rename_i hc
    rw [h] at hc
    cases hc
  · rfl

/-- However deep it is, the first step along components asks for the plural, and the others leave it
at that. -/
theorem displayName_inner (h : t.inner? (n + 1) id = some e) (plural : Bool) :
    lex.displayName t id plural = lex.displayName t e true := by
  induction n generalizing id plural with
  | zero =>
      obtain ⟨c, hc, hinner⟩ := Option.bind_eq_some_iff.mp h
      obtain rfl : c = e := Option.some.inj hinner
      exact displayName_array hc plural
  | succ n ih =>
      obtain ⟨c, hc, hinner⟩ := Option.bind_eq_some_iff.mp h
      rw [displayName_array hc, ih hinner]

/-! ## The length of the search -/

/-- Goes up to the closest naming and looks at so many types at most. Without a result these are too
few. -/
def nearestWithin? (lex : Lexicon) (t : TypeTree) : Nat → TypeId → Option (Option Naming)
  | 0, _ => none
  | n + 1, id =>
    if t.Known id then
      match lex.naming? id with
      | some naming => some (some naming)
      | none =>
        match t.parent? id with
        | some p => lex.nearestWithin? t n p
        | none => some none
    else some none

/-- The display name, found in so many types at most, along components first, then along parents. -/
def displayWithin? (lex : Lexicon) (t : TypeTree) : Nat → TypeId → Bool → Option String
  | 0, _, _ => none
  | n + 1, id, plural =>
    match t.component? id with
    | some c => lex.displayWithin? t n c true
    | none => (lex.nearestWithin? t (n + 1) id).map (nounFor t id plural)

theorem nearestWithin?_eq (h : id.toNat < n) :
    lex.nearestWithin? t n id = some (lex.nearest? t id) := by
  induction n generalizing id with
  | zero => exact absurd h (Nat.not_lt_zero _)
  | succ n ih =>
      rw [nearestWithin?, nearest?]
      by_cases known : t.Known id
      · rw [if_pos known]
        cases hp : t.parent? id with
        | some p =>
            have hparent := TypeTree.parent_toNat_lt hp
            rw [TypeTree.ancestors_eq_of_parent known hp, List.findSome?_cons]
            cases lex.naming? id with
            | some naming => rfl
            | none => exact ih (by omega)
        | none =>
            rw [TypeTree.ancestors_eq_of_no_parent known hp, List.findSome?_cons]
            cases lex.naming? id with
            | some naming => rfl
            | none => rfl
      · rw [if_neg known, TypeTree.ancestors, if_neg known]
        rfl

theorem displayWithin?_eq (h : id.toNat < n) (plural : Bool) :
    lex.displayWithin? t n id plural = some (lex.displayName t id plural) := by
  induction n generalizing id plural with
  | zero => exact absurd h (Nat.not_lt_zero _)
  | succ n ih =>
      rw [displayWithin?]
      cases hc : t.component? id with
      | some c =>
          have hcomponent := TypeTree.component_toNat_lt hc
          rw [displayName_array hc]
          exact ih (by omega) true
      | none =>
          rw [displayName_single hc]
          dsimp only
          rw [nearestWithin?_eq h, Option.map_some]

/-! ## Names as a whole -/

/-- The search for the name of a type ends after as many types as there are up to that one. An array
holds something in the end that is no array, and goes by the plural of that, however deep it is and
whichever number is asked for. A type that is no array goes by the closest naming, which there is if
anything at or above it is named. Otherwise it goes by its own name in lower case, made a plural if
that is asked for. -/
theorem named_by_innermost_or_closest (lex : Lexicon) (t : TypeTree) :
    (∀ id plural n, id.toNat < n →
      lex.displayWithin? t n id plural = some (lex.displayName t id plural)) ∧
    (∀ id, t.isArray id = true → ∃ n e, t.inner? (n + 1) id = some e ∧ t.isArray e = false) ∧
    (∀ n id e plural, t.inner? (n + 1) id = some e →
      lex.displayName t id plural = lex.displayName t e true) ∧
    ∀ id plural, t.isArray id = false →
      (∀ naming, lex.Closest t id naming → lex.displayName t id plural = naming.noun plural) ∧
      ((∃ a, t.subsumes a id = true ∧ (lex.naming? a).isSome = true) →
        ∃ naming, lex.Closest t id naming) ∧
      ((∀ a, t.subsumes a id = true → lex.naming? a = none) →
        lex.displayName t id plural =
          if plural then English.plural (Unicode.lowercased (t.name id))
          else Unicode.lowercased (t.name id)) := by
  refine ⟨fun _ plural _ h => displayWithin?_eq h plural, ?_,
    fun _ _ _ plural h => displayName_inner h plural, ?_⟩
  · intro id array
    obtain ⟨n, e, hinner, single⟩ := t.exists_innermost id
    cases n with
    | zero =>
        obtain rfl := Option.some.inj hinner
        rw [array] at single
        cases single
    | succ n => exact ⟨n, e, hinner, single⟩
  · intro id plural single
    have hnone : t.component? id = none := by simpa [TypeTree.isArray] using single
    have hname : lex.displayName t id plural = nounFor t id plural (lex.nearest? t id) :=
      displayName_single hnone plural
    refine ⟨?_, ?_, ?_⟩
    · intro naming closest
      rw [hname, nearest?_of_closest closest]
      rfl
    · rintro ⟨a, above, named⟩
      cases hfound : lex.nearest? t id with
      | some naming => exact ⟨naming, closest_of_nearest? hfound⟩
      | none =>
          rw [nearest?_eq_none_iff.mp hfound a above] at named
          cases named
    · intro unnamed
      rw [hname, nearest?_eq_none_iff.mpr unnamed]
      rfl

/-- Where players are named, admins go by that name too, and arrays of arrays of admins are players.
The root keeps its own name, as no type above it is named. -/
theorem nested_admins_are_players :
    let lex : Lexicon := ⟨[(TypeTree.player, ⟨"player", ⟨"player", "players"⟩, []⟩)]⟩
    let t := TypeTree.teams
    lex.displayName t TypeTree.admin false = "player" ∧
      lex.displayName t (.ofNat 8) false = "players" ∧
      lex.displayWithin? t 9 (.ofNat 8) false = some "players" ∧
      lex.displayName t .root true = English.plural (Unicode.lowercased "Object") := by
  intro lex t
  obtain ⟨hwithin, -, hinner, hsingle⟩ := named_by_innermost_or_closest lex t
  have hadmins : t.ancestors TypeTree.admin = [TypeTree.admin, TypeTree.player, .root] := by
    decide +kernel
  have hroot : t.ancestors .root = [.root] := by decide +kernel
  have closest : lex.Closest t TypeTree.admin ⟨"player", ⟨"player", "players"⟩, []⟩ := by
    apply closest_of_nearest?
    rw [nearest?, hadmins]
    rfl
  have unnamed (a : TypeId) (above : t.subsumes a .root = true) : lex.naming? a = none := by
    rw [TypeTree.subsumes_iff_mem_ancestors, hroot] at above
    obtain rfl := List.mem_singleton.mp above
    rfl
  have hadmin (plural : Bool) := (hsingle TypeTree.admin plural (by decide +kernel)).1 _ closest
  have hnested : lex.displayName t (.ofNat 8) false = "players" := by
    rw [hinner 1 (.ofNat 8) TypeTree.admin false (by decide +kernel), hadmin]
    rfl
  have hobject : t.name .root = "Object" := by decide +kernel
  refine ⟨hadmin false, hnested, ?_, ?_⟩
  · rw [hwithin _ _ _ (by decide +kernel), hnested]
  · rw [(hsingle .root true (by decide +kernel)).2.2 unnamed, hobject]
    rfl

end Lexicon

end Provision
