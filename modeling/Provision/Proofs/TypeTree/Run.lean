import Provision.Proofs.TypeTree.Arrays

/-! # Runs of a tree

A tree starts with the root alone and is asked for one type after the other. -/

namespace Provision.TypeTree

inductive Operation
  | define (name : String) (parent : TypeId)
  | arrayOf (c : TypeId)

def step (t : TypeTree) : Operation → TypeTree × Except Error TypeId
  | .define name parent => t.define name parent
  | .arrayOf c => t.arrayOf c

def run (t : TypeTree) (ops : List Operation) : TypeTree :=
  ops.foldl (fun t op => (t.step op).1) t

/-- The trees that operations lead to from the root alone. -/
def Reachable (t : TypeTree) : Prop := ∃ ops, initial.run ops = t

/-! ## What operations keep -/

section

variable {t : TypeTree}

/-- A definition adds one type, which gets the next number, or nothing. -/
theorem define_cases (t : TypeTree) (name : String) (parent : TypeId) :
    (∃ e, t.define name parent = (t, .error e)) ∨
      ∃ grown, t.define name parent = (grown, .ok t.nextId) ∧ t.isArray parent = false ∧
        t.Admits ⟨name, some parent, none⟩ ∧ t.Adds ⟨name, some parent, none⟩ grown := by
  rw [define]
  split
  · exact .inl ⟨_, rfl⟩
  · rename_i free
    split
    · rename_i known
      split
      · exact .inl ⟨_, rfl⟩
      · rename_i single
        refine .inr ⟨_, rfl, by simpa using single, ⟨?_, ⟨parent, rfl, known⟩, ?_⟩,
          ⟨rfl, rfl, rfl⟩⟩
        · simpa using free
        · simp
    · exact .inl ⟨_, rfl⟩

theorem step_grows (consistent : t.Consistent) (op : Operation) : t.Grows (t.step op).1 := by
  cases op with
  | define name parent =>
      rw [step]
      rcases define_cases t name parent with ⟨e, hfailed⟩ | ⟨grown, hdefine, -, admitted, hadds⟩
      · rw [hfailed]
        exact .refl
      · rw [hdefine]
        exact .single ⟨_, admitted, hadds⟩
  | arrayOf c =>
      by_cases known : t.Known c
      · obtain ⟨made, hmade⟩ := (arrayOf_spec consistent known).exists_made
        exact hmade.grows
      · rw [step, arrayOf_of_unknown known]
        exact .refl

theorem run_grows (consistent : t.Consistent) (ops : List Operation) : t.Grows (t.run ops) := by
  induction ops generalizing t with
  | nil => exact .refl
  | cons op ops ih =>
      have hstep := step_grows consistent op
      exact hstep.trans (ih (hstep.consistent consistent))

theorem Reachable.consistent (h : t.Reachable) : t.Consistent := by
  obtain ⟨ops, rfl⟩ := h
  exact (run_grows initial_consistent ops).consistent initial_consistent

end

/-! ## Trees as they are seen -/

/-- A tree fits together: parents and components come earlier, the two tables hold the names and the
components that the types have and nothing else, and arrays extend each other as their components
do. -/
structure WellFormed (t : TypeTree) : Prop where
  parent_toNat_lt : ∀ k p, t.parent? k = some p → p.toNat < k.toNat
  component_toNat_lt : ∀ k c, t.component? k = some c → c.toNat < k.toNat
  root : t.Known .root
  parent?_eq_none_iff : ∀ k, t.Known k → (t.parent? k = none ↔ k = .root)
  name_inj : ∀ a b, t.Known a → t.Known b → t.name a = t.name b → a = b
  lookup?_eq_some_iff : ∀ name k, t.lookup? name = some k ↔ t.Known k ∧ t.name k = name
  arrayType?_eq_some_iff : ∀ c k, t.arrayType? c = some k ↔ t.component? k = some c
  component_inj : ∀ a b c, t.component? a = some c → t.component? b = some c → a = b
  array_extends : ∀ c p a, t.arrayType? c = some a → t.parent? c = some p →
    ∃ above, t.arrayType? p = some above ∧ t.parent? a = some above
  array_of_root : ∀ a, t.arrayType? .root = some a → t.parent? a = some .root

section

variable {t : TypeTree}

theorem lookup?_eq_some_iff (consistent : t.Consistent) (bound : t.size ≤ UInt32.size)
    (name : String) (k : TypeId) : t.lookup? name = some k ↔ t.Known k ∧ t.name k = name := by
  rw [consistent.indexed.lookup?_eq]
  constructor
  · intro h
    obtain ⟨node, hnode, hfits⟩ := node?_of_first? bound h
    exact ⟨known_of_node? hnode, (name_of_node? hnode).trans (beq_iff_eq.mp hfits)⟩
  · rintro ⟨known, rfl⟩
    obtain ⟨node, hnode⟩ := exists_node? known
    refine first?_of_unique hnode (by simp [name_of_node? hnode]) ?_
    intro other found hfound hfits
    have hname : t.name other = t.name k :=
      (name_of_node? hfound).trans (beq_iff_eq.mp hfits)
    exact consistent.name_inj other k (known_of_node? hfound) known hname

theorem arrayType?_eq_some_iff (consistent : t.Consistent) (bound : t.size ≤ UInt32.size)
    (c k : TypeId) : t.arrayType? c = some k ↔ t.component? k = some c := by
  rw [consistent.indexed.arrayType?_eq]
  constructor
  · intro h
    obtain ⟨node, hnode, hfits⟩ := node?_of_first? bound h
    exact (component?_of_node? hnode).trans (beq_iff_eq.mp hfits)
  · intro h
    obtain ⟨node, hnode⟩ := exists_node? (known_of_component? h).1
    have hcomponent := (component?_of_node? hnode).symm.trans h
    refine first?_of_unique hnode (beq_iff_eq.mpr hcomponent) ?_
    intro other found hfound hfits
    have hother : t.component? other = some c :=
      (component?_of_node? hfound).trans (beq_iff_eq.mp hfits)
    exact consistent.component_inj other k c hother h

theorem Consistent.wellFormed (consistent : t.Consistent) (bound : t.size ≤ UInt32.size) :
    t.WellFormed where
  parent_toNat_lt _ _ := parent_toNat_lt
  component_toNat_lt _ _ := component_toNat_lt
  root := t.known_root
  parent?_eq_none_iff := consistent.parent?_eq_none_iff
  name_inj := consistent.name_inj
  lookup?_eq_some_iff := lookup?_eq_some_iff consistent bound
  arrayType?_eq_some_iff := arrayType?_eq_some_iff consistent bound
  component_inj := consistent.component_inj
  array_extends c p a ha hp := by
    have hc := (arrayType?_eq_some_iff consistent bound c a).mp ha
    obtain ⟨above, habove⟩ :=
      Option.isSome_iff_exists.mp (consistent.arrays_above c p (by simp [ha]) hp)
    refine ⟨above, habove, ?_⟩
    rw [consistent.array_parent a c hc, arrayParent_of_parent hp, habove]
    rfl
  array_of_root a ha := by
    have hc := (arrayType?_eq_some_iff consistent bound .root a).mp ha
    have hroot : t.parent? .root = none :=
      (consistent.parent?_eq_none_iff .root t.known_root).mpr rfl
    rw [consistent.array_parent a .root hc]
    simp [arrayParent, hroot]

/-- A tree stays well-formed with its tables, what is known of a type stays, and an array that was
asked for is there once and for all. With it come the arrays that were missing above it, and nothing
else. -/
theorem operations_keep_order (reachable : t.Reachable) (bound : t.size ≤ UInt32.size) :
    t.WellFormed ∧
    (∀ op k, t.Known k →
      (t.step op).1.Known k ∧ (t.step op).1.name k = t.name k ∧
      (t.step op).1.parent? k = t.parent? k ∧ (t.step op).1.component? k = t.component? k ∧
      ∀ sup, (t.step op).1.distance? sup k = t.distance? sup k) ∧
    ∀ c k grown, t.step (.arrayOf c) = (grown, .ok k) →
      grown.arrayType? c = some k ∧
      (∀ more, (grown.run more).step (.arrayOf c) = (grown.run more, .ok k)) ∧
      grown.nodes.toList = t.nodes.toList ++
        ((t.ancestors c).filter fun a => (t.arrayType? a).isNone).reverse.map grown.arrayNode := by
  have consistent := reachable.consistent
  refine ⟨consistent.wellFormed bound, ?_, ?_⟩
  · intro op k known
    have extended := (step_grows consistent op).extends
    exact ⟨extended.known known, extended.name_eq known, extended.parent?_eq known,
      extended.component?_eq known, extended.distance?_eq known⟩
  · intro c k grown hstep
    have hgrown : (t.arrayOf c).1 = grown := congrArg Prod.fst hstep
    have hresult : (t.arrayOf c).2 = .ok k := congrArg Prod.snd hstep
    have known : t.Known c := by
      by_contra unknown
      simp [arrayOf_of_unknown unknown] at hresult
    have hrequested := arrayOf_spec consistent known
    rw [hgrown, hresult] at hrequested
    cases hrequested with
    | made harray hmade =>
        have hconsistent := hmade.grows.consistent consistent
        refine ⟨harray, fun more => ?_, ?_⟩
        · have hgrows := run_grows hconsistent more
          have hmore := hgrows.consistent hconsistent
          have known' := (hmade.grows.extends.trans hgrows.extends).known known
          exact arrayOf_of_made known'
            (hgrows.extends.arrayType?_eq hconsistent.indexed hmore.indexed harray)
        · rw [← unmade_eq_filter consistent]
          exact hmade.nodes_eq

end

def player : TypeId := .ofNat 1

def admin : TypeId := .ofNat 2

/-- Players, admins among them, and arrays of players. -/
def players : TypeTree :=
  initial.run [.define "Player" .root, .define "Admin" player, .arrayOf player]

/-- The arrays of admins extend those of players, which are there before. -/
theorem players_gain_arrays_of_admins :
    ∃ grown, players.step (.arrayOf admin) = (grown, .ok (.ofNat 5)) ∧ players.WellFormed ∧
      grown.arrayType? admin = some (.ofNat 5) ∧
      grown.parent? (.ofNat 5) = players.arrayType? player ∧
      grown.nodes.toList = players.nodes.toList ++ [⟨"Admin[]", some (.ofNat 4), some admin⟩] ∧
      grown.distance? .root admin = players.distance? .root admin := by
  let grown := (players.step (.arrayOf admin)).1
  have hresult : (players.step (.arrayOf admin)).2 = .ok (.ofNat 5) := by decide +kernel
  have hstep : players.step (.arrayOf admin) = (grown, .ok (.ofNat 5)) := by rw [← hresult]
  have reachable : players.Reachable := ⟨_, rfl⟩
  obtain ⟨wellFormed, hkept, hmade⟩ := operations_keep_order reachable (by decide +kernel)
  obtain ⟨harray, -, hnodes⟩ := hmade admin (.ofNat 5) grown hstep
  obtain ⟨-, -, -, -, hdistance⟩ := hkept (.arrayOf admin) admin (by decide +kernel)
  have hmissing : ((players.ancestors admin).filter fun a =>
      (players.arrayType? a).isNone).reverse = [admin] := by decide +kernel
  have hname : grown.arrayName admin = "Admin[]" := by decide +kernel
  have hparent : grown.arrayParent admin = .ofNat 4 := by decide +kernel
  rw [hmissing, List.map_singleton, arrayNode, hname, hparent] at hnodes
  exact ⟨grown, hstep, wellFormed, harray, by decide +kernel, hnodes, hdistance .root⟩

end Provision.TypeTree
