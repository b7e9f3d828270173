import Mathlib.Data.List.Induction
import Mathlib.Data.Prod.Lex
import Provision.Proofs.Converters
import Provision.Proofs.TypeTree.Chain
import Provision.Proofs.TypeTree.Run

/-! # The best conversion

Of all registered conversions that lead from one type to another, the one with the least detour is
chosen. It counts first how far above the source its own source is, then how far below the target its
own target is, and last which target was defined first. In which order the conversions for different
pairs of types were registered does not count. -/

namespace Provision.Converters

variable {σ α : Type}

/-! ## Registrations -/

/-- A conversion, with the pair of types that it is registered for. -/
abbrev Registration (σ α : Type) := (TypeId × TypeId) × Converter σ α

/-- Conversions that are registered one after the other. -/
def ofRegistrations (given : List (Registration σ α)) : Converters σ α :=
  given.foldl (fun c e => c.register e.1.1 e.1.2 e.2) {}

def last? (given : List (Registration σ α)) (pair : TypeId × TypeId) : Option (Converter σ α) :=
  (given.filter (·.1 == pair)).getLast?.map (·.2)

section

variable {given : List (Registration σ α)} {pair : TypeId × TypeId} {f : Converter σ α}

theorem mem_entries_register_iff {c : Converters σ α} {source target : TypeId}
    {g : Converter σ α} :
    (pair, f) ∈ (c.register source target g).entries ↔
      if pair = (source, target) then f = g else (pair, f) ∈ c.entries := by
  by_cases hpair : pair = (source, target) <;> simp [register, hpair]

theorem last?_concat (given : List (Registration σ α)) (e : Registration σ α)
    (pair : TypeId × TypeId) :
    last? (given ++ [e]) pair = if pair = e.1 then some e.2 else last? given pair := by
  by_cases hpair : pair = e.1
  · simp [last?, hpair]
  · simp [last?, hpair, Ne.symm hpair]

theorem mem_entries_ofRegistrations_iff :
    (pair, f) ∈ (ofRegistrations given).entries ↔ last? given pair = some f := by
  induction given using List.reverseRecOn with
  | nil => simp [ofRegistrations, last?]
  | append_singleton given e ih =>
      rw [ofRegistrations, List.foldl_append, List.foldl_cons, List.foldl_nil,
        mem_entries_register_iff, last?_concat]
      by_cases hpair : pair = e.1
      · simp [hpair, eq_comm]
      · rw [if_neg hpair, if_neg hpair]
        exact ih

theorem isSome_last?_iff : (last? given pair).isSome = true ↔ pair ∈ given.map (·.1) := by
  simp [last?]

theorem mem_pairs_ofRegistrations_iff :
    pair ∈ (ofRegistrations given).entries.map (·.1) ↔ pair ∈ given.map (·.1) := by
  constructor
  · intro h
    obtain ⟨⟨_, f⟩, hentry, rfl⟩ := List.mem_map.mp h
    apply isSome_last?_iff.mp
    simp [mem_entries_ofRegistrations_iff.mp hentry]
  · intro h
    obtain ⟨f, hlast⟩ := Option.isSome_iff_exists.mp (isSome_last?_iff.mpr h)
    exact List.mem_map_of_mem (mem_entries_ofRegistrations_iff.mpr hlast)

end

/-! ## The first of the candidates -/

namespace Candidate

/-- Where a candidate stands among those from the same type. -/
def place (c : Candidate σ α) : Nat ×ₗ Nat := toLex (c.steps, c.target.toNat)

theorem precedes_iff (a b : Candidate σ α) : a.precedes b = true ↔ a.place < b.place := by
  simp [precedes, place, Prod.Lex.toLex_lt_toLex]

theorem first?_eq_none_iff {candidates : List (Candidate σ α)} :
    first? candidates = none ↔ candidates = [] := by
  cases candidates with
  | nil => simp [first?]
  | cons c rest =>
      rw [first?]
      cases first? rest with
      | none => simp
      | some d =>
          dsimp only
          split <;> simp

theorem place_le_of_first? {candidates : List (Candidate σ α)} {best : Candidate σ α}
    (h : first? candidates = some best) : ∀ c ∈ candidates, best.place ≤ c.place := by
  induction candidates generalizing best with
  | nil => simp
  | cons c rest ih =>
      intro other hother
      rw [first?] at h
      cases hrest : first? rest with
      | none =>
          simp only [hrest, Option.some.injEq] at h
          rw [first?_eq_none_iff.mp hrest, List.mem_singleton] at hother
          rw [hother, h]
      | some d =>
          simp only [hrest] at h
          split at h
          · rename_i hprecedes
            obtain rfl := Option.some.inj h
            rcases List.mem_cons.mp hother with rfl | hother
            · exact ((precedes_iff d other).mp hprecedes).le
            · exact ih hrest other hother
          · rename_i hnot
            obtain rfl := Option.some.inj h
            rcases List.mem_cons.mp hother with rfl | hother
            · exact le_refl _
            · rw [precedes_iff, not_lt] at hnot
              exact hnot.trans (ih hrest other hother)

end Candidate

/-! ## Detours -/

/-- What a conversion for a pair of types goes out of the way between a source and a target: the
steps from the source up to its own, those from its own target up to the target, and the number of
its own target. There is none if it does not lead from the one to the other. -/
def detour? (t : TypeTree) (source target : TypeId) (pair : TypeId × TypeId) :
    Option (Nat ×ₗ Nat ×ₗ Nat) :=
  match t.distance? pair.1 source, t.distance? target pair.2 with
  | some up, some down => some (toLex (up, toLex (down, pair.2.toNat)))
  | _, _ => none

section

variable {t : TypeTree} {source target : TypeId} {pair other : TypeId × TypeId}
  {detour : Nat ×ₗ Nat ×ₗ Nat}

theorem detour?_eq_some_iff :
    detour? t source target pair = some detour ↔
      ∃ up down, t.distance? pair.1 source = some up ∧ t.distance? target pair.2 = some down ∧
        detour = toLex (up, toLex (down, pair.2.toNat)) := by
  unfold detour?
  cases t.distance? pair.1 source <;> cases t.distance? target pair.2 <;> simp [eq_comm]

theorem isSome_detour?_iff :
    (detour? t source target pair).isSome = true ↔
      t.subsumes pair.1 source = true ∧ t.subsumes target pair.2 = true := by
  unfold detour? TypeTree.subsumes
  cases t.distance? pair.1 source <;> cases t.distance? target pair.2 <;> simp

theorem detour?_inj (h : detour? t source target pair = some detour)
    (h' : detour? t source target other = some detour) : pair = other := by
  obtain ⟨up, down, hup, -, rfl⟩ := detour?_eq_some_iff.mp h
  obtain ⟨up', down', hup', -, heq⟩ := detour?_eq_some_iff.mp h'
  obtain ⟨rfl, hrest⟩ := Prod.mk.inj (toLex.injective heq)
  obtain ⟨-, hnumber⟩ := Prod.mk.inj (toLex.injective hrest)
  exact Prod.ext (TypeTree.distance?_inj hup hup') (TypeId.toNat_inj.mp hnumber)

end

/-- The pair with the least detour of all that lead from a source to a target. -/
structure Shortest (t : TypeTree) (source target : TypeId) (pairs : List (TypeId × TypeId))
    (pair : TypeId × TypeId) (detour : Nat ×ₗ Nat ×ₗ Nat) : Prop where
  mem : pair ∈ pairs
  detour_eq : detour? t source target pair = some detour
  least : ∀ other ∈ pairs, ∀ d, detour? t source target other = some d → detour ≤ d

section

variable {t : TypeTree} {source target : TypeId} {pairs more : List (TypeId × TypeId)}
  {pair other : TypeId × TypeId} {detour d : Nat ×ₗ Nat ×ₗ Nat}

theorem Shortest.pair_unique (h : Shortest t source target pairs pair detour)
    (h' : Shortest t source target pairs other d) : pair = other := by
  have hdetour : detour = d :=
    le_antisymm (h.least other h'.mem d h'.detour_eq) (h'.least pair h.mem detour h.detour_eq)
  subst hdetour
  exact detour?_inj h.detour_eq h'.detour_eq

theorem Shortest.congr (h : Shortest t source target pairs pair detour)
    (same : ∀ pair, pair ∈ pairs ↔ pair ∈ more) : Shortest t source target more pair detour where
  mem := (same pair).mp h.mem
  detour_eq := h.detour_eq
  least other hother := h.least other ((same other).mpr hother)

end

/-! ## The choice has the least detour -/

section

variable {c : Converters σ α} {t : TypeTree} {source target : TypeId}

theorem choice?_eq_none_iff :
    c.choice? t source target = none ↔
      ∀ entry ∈ c.entries, detour? t source target entry.1 = none := by
  simp only [choice?, List.findSome?_eq_none_iff, Option.map_eq_none_iff,
    Candidate.first?_eq_none_iff]
  constructor
  · rintro h ⟨pair, f⟩ hentry
    rw [← Option.not_isSome_iff_eq_none, isSome_detour?_iff]
    rintro ⟨habove, hbelow⟩
    obtain ⟨steps, hsteps⟩ := Option.isSome_iff_exists.mp hbelow
    have hmem : ⟨steps, pair.2, f⟩ ∈ c.candidates t pair.1 target :=
      mem_candidates_iff.mpr ⟨hentry, hsteps⟩
    rw [h pair.1 ((t.subsumes_iff_mem_ancestors _ _).mp habove)] at hmem
    simp at hmem
  · intro h above habove
    rw [List.eq_nil_iff_forall_not_mem]
    intro candidate hcandidate
    obtain ⟨hentry, hsteps⟩ := mem_candidates_iff.mp hcandidate
    have hnone := h _ hentry
    rw [← Option.not_isSome_iff_eq_none, isSome_detour?_iff] at hnone
    exact hnone ⟨(t.subsumes_iff_mem_ancestors _ _).mpr habove, by simp [TypeTree.subsumes, hsteps]⟩

/-- The walk upward stops at the first type with any conversion, so that all others are for types
that are at least as far. -/
theorem shortest_of_choice? {entry : Registration σ α}
    (h : c.choice? t source target = some entry) :
    ∃ detour, Shortest t source target (c.entries.map (·.1)) entry.1 detour := by
  obtain ⟨passed, above, rest, hwalk, hfirst, hpassed⟩ := List.findSome?_eq_some_iff.mp h
  obtain ⟨best, hbest, rfl⟩ := Option.map_eq_some_iff.mp hfirst
  obtain ⟨hentry, hsteps⟩ := mem_candidates_iff.mp (Candidate.mem_of_first? hbest)
  have hup : t.distance? above source = some passed.length := by
    rw [TypeTree.distance?_eq_some_iff, hwalk]
    simp
  refine ⟨toLex (passed.length, best.place), List.mem_map_of_mem hentry,
    detour?_eq_some_iff.mpr ⟨_, _, hup, hsteps, rfl⟩, ?_⟩
  intro _ hmem d hd
  obtain ⟨⟨other, f⟩, hother, rfl⟩ := List.mem_map.mp hmem
  obtain ⟨up, down, hotherUp, hdown, rfl⟩ := detour?_eq_some_iff.mp hd
  have hcandidate : ⟨down, other.2, f⟩ ∈ c.candidates t other.1 target :=
    mem_candidates_iff.mpr ⟨hother, hdown⟩
  rw [Prod.Lex.toLex_le_toLex]
  rcases Nat.lt_trichotomy passed.length up with hlt | heq | hgt
  · exact .inl hlt
  · -- both start at the same type, whose first candidate was taken
    obtain rfl : above = other.1 := TypeTree.distance?_inj hup (heq ▸ hotherUp)
    exact .inr ⟨heq, Candidate.place_le_of_first? hbest _ hcandidate⟩
  · -- the other starts at a type that was passed for want of candidates
    have hotherPassed : other.1 ∈ passed := by
      rw [TypeTree.distance?_eq_some_iff, hwalk, List.getElem?_append_left hgt] at hotherUp
      exact List.mem_of_getElem? hotherUp
    have hnone := hpassed other.1 hotherPassed
    rw [Option.map_eq_none_iff, Candidate.first?_eq_none_iff] at hnone
    simp [hnone] at hcandidate

theorem isSome_find?_iff :
    (c.find? t source target).isSome = true ↔
      t.subsumes target source = true ∨
        ∃ entry ∈ c.entries, t.subsumes entry.1.1 source = true ∧
          t.subsumes target entry.1.2 = true := by
  rw [find?_eq]
  cases hsubsumes : t.subsumes target source with
  | true => simp
  | false =>
      simp only [Bool.false_eq_true, if_false, Option.isSome_map, false_or]
      rw [Option.isSome_iff_ne_none, ne_eq, choice?_eq_none_iff]
      simp only [not_forall, exists_prop, ← ne_eq, ← Option.isSome_iff_ne_none, isSome_detour?_iff]

end

/-! ## Conversions as they are found -/

section

variable {t : TypeTree} {given other : List (Registration σ α)} {source target : TypeId}

theorem find?_ofRegistrations_iff (apart : t.subsumes target source = false) (f : Converter σ α) :
    (ofRegistrations given).find? t source target = some f ↔
      ∃ pair detour, Shortest t source target (given.map (·.1)) pair detour ∧
        last? given pair = some f := by
  have hfind : (ofRegistrations given).find? t source target = some f ↔
      ∃ entry, (ofRegistrations given).choice? t source target = some entry ∧ entry.2 = f := by
    simp [find?_eq, apart]
  have hpairs (pair : TypeId × TypeId) :
      pair ∈ (ofRegistrations given).entries.map (·.1) ↔ pair ∈ given.map (·.1) :=
    mem_pairs_ofRegistrations_iff
  rw [hfind]
  constructor
  · rintro ⟨entry, hchoice, rfl⟩
    obtain ⟨detour, hshortest⟩ := shortest_of_choice? hchoice
    have hlast := mem_entries_ofRegistrations_iff.mp (choice?_eq_some hchoice).1
    exact ⟨entry.1, detour, hshortest.congr hpairs, hlast⟩
  · rintro ⟨pair, detour, hshortest, hlast⟩
    have hentry := mem_entries_ofRegistrations_iff.mpr hlast
    cases hchoice : (ofRegistrations given).choice? t source target with
    | none =>
        have hnone := choice?_eq_none_iff.mp hchoice _ hentry
        exact nomatch hnone.symm.trans hshortest.detour_eq
    | some entry =>
        obtain ⟨d, hchosen⟩ := shortest_of_choice? hchoice
        obtain rfl := hshortest.pair_unique (hchosen.congr hpairs)
        have hlast' := mem_entries_ofRegistrations_iff.mp (choice?_eq_some hchoice).1
        exact ⟨entry, rfl, Option.some.inj (hlast'.symm.trans hlast)⟩

theorem find?_ofRegistrations_eq_none_iff (apart : t.subsumes target source = false) :
    (ofRegistrations given).find? t source target = none ↔
      ∀ pair ∈ given.map (·.1), detour? t source target pair = none := by
  have hfind : (ofRegistrations given).find? t source target = none ↔
      (ofRegistrations given).choice? t source target = none := by
    simp [find?_eq, apart]
  rw [hfind, choice?_eq_none_iff, ← List.forall_mem_map (P := (detour? t source target · = none))]
  simp only [mem_pairs_ofRegistrations_iff]

theorem find?_ofRegistrations_congr (same : ∀ pair, last? other pair = last? given pair) :
    (ofRegistrations other).find? t source target =
      (ofRegistrations given).find? t source target := by
  have hpairs (pair : TypeId × TypeId) : pair ∈ given.map (·.1) ↔ pair ∈ other.map (·.1) := by
    rw [← isSome_last?_iff, ← isSome_last?_iff, same]
  cases hsubsumes : t.subsumes target source with
  | true => simp [find?_eq, hsubsumes]
  | false =>
      apply Option.ext
      intro f
      rw [find?_ofRegistrations_iff hsubsumes, find?_ofRegistrations_iff hsubsumes]
      constructor
      · rintro ⟨pair, detour, hshortest, hlast⟩
        exact ⟨pair, detour, hshortest.congr fun pair => (hpairs pair).symm, same pair ▸ hlast⟩
      · rintro ⟨pair, detour, hshortest, hlast⟩
        exact ⟨pair, detour, hshortest.congr hpairs, (same pair).symm ▸ hlast⟩

/-- Where every value of the source is one of the target, it is passed on as it is. Elsewhere the
conversion is found that was registered last for the pair with the least detour, and none only where
no pair leads from the source to the target. So nothing counts but what was registered last for each
pair, and a way from one type to another is a way from all below the one to all above the other. -/
theorem least_detour_found (t : TypeTree) (given : List (Registration σ α))
    (source target : TypeId) :
    (t.subsumes target source = true →
      (ofRegistrations given).find? t source target = some .identity) ∧
    (t.subsumes target source = false →
      (∀ f, (ofRegistrations given).find? t source target = some f ↔
        ∃ pair detour, Shortest t source target (given.map (·.1)) pair detour ∧
          last? given pair = some f) ∧
      ((ofRegistrations given).find? t source target = none ↔
        ∀ pair ∈ given.map (·.1), detour? t source target pair = none)) ∧
    (∀ other : List (Registration σ α), (∀ pair, last? other pair = last? given pair) →
      (ofRegistrations other).find? t source target =
        (ofRegistrations given).find? t source target) ∧
    ∀ sub sup, t.subsumes source sub = true → t.subsumes sup target = true →
      ((ofRegistrations given).find? t source target).isSome = true →
        ((ofRegistrations given).find? t sub sup).isSome = true := by
  refine ⟨fun wider => by simp [find?_eq, wider], fun apart => ?_, fun other => ?_, ?_⟩
  · exact ⟨find?_ofRegistrations_iff apart, find?_ofRegistrations_eq_none_iff apart⟩
  · exact find?_ofRegistrations_congr
  · intro sub sup hsub hsup hsome
    rw [isSome_find?_iff] at hsome ⊢
    rcases hsome with hsubsumes | ⟨entry, hentry, habove, hbelow⟩
    · exact .inl (TypeTree.subsumes_trans hsup (TypeTree.subsumes_trans hsubsumes hsub))
    · exact .inr ⟨entry, hentry, TypeTree.subsumes_trans habove hsub,
        TypeTree.subsumes_trans hsup hbelow⟩

end

section

open TypeTree

def toAdmin : Converter Unit Unit := fun _ _ => some ⟨admin, ()⟩

/-- Arrays of players are turned into players by what turns all arrays into admins, rather than by
what turns everything into players, and by what was registered last for that. -/
theorem players_from_arrays :
    let objects : TypeId := .ofNat 3
    let given : List (Registration Unit Unit) :=
      [((objects, admin), fun _ _ => none), ((.root, player), .identity), ((objects, admin), toAdmin)]
    let other : List (Registration Unit Unit) :=
      [((objects, admin), toAdmin), ((.root, player), .identity)]
    (ofRegistrations given).find? players (.ofNat 4) player = some toAdmin ∧
      (ofRegistrations other).find? players (.ofNat 4) player = some toAdmin ∧
      ((ofRegistrations given).find? players (.ofNat 4) admin).isSome = true := by
  intro objects given other
  obtain ⟨-, hturned, hsame, -⟩ := least_detour_found players given (.ofNat 4) player
  obtain ⟨-, -, -, hwider⟩ := least_detour_found players given objects admin
  have hshortest : Shortest players (.ofNat 4) player (given.map (·.1)) (objects, admin)
      (toLex (1, toLex (1, 2))) := by
    refine ⟨by simp [given], by decide +kernel, ?_⟩
    intro pair hpair d hd
    have hcases : pair = (objects, admin) ∨ pair = (.root, player) ∨ pair = (objects, admin) := by
      simpa [given] using hpair
    have hadmin {d} (h : detour? players (.ofNat 4) player (objects, admin) = some d) :
        toLex (1, toLex (1, 2)) = d := Option.some.inj (Eq.trans (by decide +kernel) h)
    rcases hcases with rfl | rfl | rfl
    · exact (hadmin hd).le
    · obtain rfl : toLex (2, toLex (0, 1)) = d := Option.some.inj (Eq.trans (by decide +kernel) hd)
      decide
    · exact (hadmin hd).le
  have hfound := ((hturned (by decide +kernel)).1 toAdmin).mpr ⟨_, _, hshortest, rfl⟩
  have hlast (pair : TypeId × TypeId) : last? other pair = last? given pair := by
    by_cases hroot : pair = (.root, player)
    · subst hroot
      rfl
    · by_cases hobjects : pair = (objects, admin)
      · subst hobjects
        rfl
      · simp [last?, given, other, Ne.symm hroot, Ne.symm hobjects]
  refine ⟨hfound, (hsame other hlast).trans hfound, ?_⟩
  exact hwider (.ofNat 4) admin (by decide +kernel) (by decide +kernel) (by decide +kernel)

end

end Provision.Converters
