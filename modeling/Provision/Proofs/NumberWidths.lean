import Provision.Proofs.Rank
import Provision.Proofs.Registry.Run
import Provision.Proofs.TypeTree.Distance

/-! # Numbers of 32 bits

Types are numbered in 32 bits, and so are the steps between them. In a tree of less than 2³² types
neither overflows, and no distance is as large as the one that stands for none. -/

namespace Provision

namespace TypeTree

/-! ## Numbers of new types -/

/-- The numbers of the types that a tree gets on its way to another. -/
def issued (t grown : TypeTree) : List TypeId :=
  (List.range' t.size (grown.size - t.size)).map .ofNat

section

variable {t grown : TypeTree} {id c : TypeId}

theorem toNat_issued (extended : t.Extends grown) (bound : grown.size ≤ UInt32.size) :
    (t.issued grown).map TypeId.toNat = List.range' t.size (grown.size - t.size) := by
  rw [issued, List.map_map]
  refine (List.map_congr_left ?_).trans (List.map_id _)
  intro n hn
  have hle := extended.size_le
  have hlt := (List.mem_range'_1.mp hn).2
  exact TypeId.toNat_ofNat (by omega)

theorem mem_issued_iff (extended : t.Extends grown) (bound : grown.size ≤ UInt32.size) :
    id ∈ t.issued grown ↔ ¬t.Known id ∧ grown.Known id := by
  have hle := extended.size_le
  have hmem : id ∈ t.issued grown ↔ id.toNat ∈ (t.issued grown).map TypeId.toNat := by
    rw [List.mem_map]
    constructor
    · intro h
      exact ⟨id, h, rfl⟩
    · rintro ⟨other, h, heq⟩
      rwa [← TypeId.toNat_inj.mp heq]
  rw [hmem, toNat_issued extended bound, List.mem_range'_1]
  simp only [Known]
  omega

theorem new_of_define_ok {name : String} {parent : TypeId}
    (h : t.define name parent = (grown, .ok id)) (bound : grown.size ≤ UInt32.size) :
    ¬t.Known id ∧ grown.Known id := by
  rcases define_cases t name parent with ⟨e, hfailed⟩ | ⟨grown', hdefine, -, -, hadds⟩
  · cases hfailed.symm.trans h
  · obtain ⟨rfl, hnext⟩ := Prod.mk.inj (hdefine.symm.trans h)
    obtain rfl := Except.ok.inj hnext
    have hsize := hadds.size_eq
    have hid : t.nextId.toNat = t.size := TypeId.toNat_ofNat (by omega)
    simp only [Known]
    omega

theorem new_of_arrayOf_ok (consistent : t.Consistent) (h : t.arrayOf c = (grown, .ok id))
    (bound : grown.size ≤ UInt32.size) :
    (¬t.Known id ∧ grown.Known id) ∨ grown = t ∧ t.arrayType? c = some id := by
  have known : t.Known c := by
    by_contra unknown
    simp [arrayOf_of_unknown unknown] at h
  cases hold : t.arrayType? c with
  | some k =>
      obtain ⟨rfl, hk⟩ := Prod.mk.inj ((arrayOf_of_made known hold).symm.trans h)
      obtain rfl := Except.ok.inj hk
      exact .inr ⟨rfl, rfl⟩
  | none =>
      left
      have hrequested := arrayOf_spec consistent known
      rw [h] at hrequested
      cases hrequested with
      | made array hmade =>
          have hcomponent : grown.component? id = some c :=
            (arrayType?_eq_some_iff (hmade.grows.consistent consistent) bound c id).mp array
          refine ⟨fun old => ?_, known_of_arrayType? array⟩
          rw [hmade.grows.extends.component?_eq old] at hcomponent
          exact component?_ne_of_missing consistent.indexed hold hcomponent

/-- The types that a step adds are numbered in order, and no type had one of these numbers before.
What the step answers is one of them, or an array that was there. -/
structure IssuesNew (t : TypeTree) (op : Operation) : Prop where
  in_order : (t.issued (t.step op).1).map TypeId.toNat =
    List.range' t.size ((t.step op).1.size - t.size)
  new : ∀ id ∈ t.issued (t.step op).1, ¬t.Known id
  answer : ∀ id, (t.step op).2 = .ok id → id ∈ t.issued (t.step op).1 ∨
    (t.step op).1 = t ∧ ∃ c, op = .arrayOf c ∧ t.arrayType? c = some id

theorem step_issues (consistent : t.Consistent) (op : Operation)
    (bound : (t.step op).1.size ≤ UInt32.size) : t.IssuesNew op := by
  have extended := (step_grows consistent op).extends
  refine ⟨toNat_issued extended bound, fun id hid => ((mem_issued_iff extended bound).mp hid).1, ?_⟩
  intro id hid
  rw [mem_issued_iff extended bound]
  cases op with
  | define name parent =>
      have hstep : t.define name parent = ((t.define name parent).1, .ok id) := Prod.ext rfl hid
      exact .inl (new_of_define_ok hstep bound)
  | arrayOf c =>
      have hstep : t.arrayOf c = ((t.arrayOf c).1, .ok id) := Prod.ext rfl hid
      rcases new_of_arrayOf_ok consistent hstep bound with hnew | ⟨hsame, hold⟩
      · exact .inl hnew
      · exact .inr ⟨hsame, c, rfl, hold⟩

end

/-! ## Counting steps -/

/-- Looks for a type on a walk and counts the steps in 32 bits. Without a result the counter
overflows. -/
def countTo? (sup : TypeId) : UInt32 → List TypeId → Option (Option UInt32)
  | _, [] => some none
  | n, a :: rest =>
    if a = sup then some (some n)
    else if n.toNat + 1 < UInt32.size then countTo? sup (n + 1) rest
    else none

theorem countTo?_eq {sup : TypeId} {n : UInt32} {walk : List TypeId}
    (h : n.toNat + walk.length < UInt32.size) :
    countTo? sup n walk = some ((walk.idxOf? sup).map fun i => n + .ofNat i) := by
  induction walk generalizing n with
  | nil => rfl
  | cons a rest ih =>
      rw [List.length_cons] at h
      rw [countTo?, List.idxOf?_cons]
      by_cases found : a = sup
      · simp [found]
      · have hroom : n.toNat + 1 < UInt32.size := by omega
        have hnext : (n + 1).toNat = n.toNat + 1 := by
          rw [UInt32.toNat_add, UInt32.toNat_one]
          exact Nat.mod_eq_of_lt hroom
        have hsteps (i : Nat) : n + 1 + UInt32.ofNat i = n + UInt32.ofNat (i + 1) := by
          rw [UInt32.ofNat_add, UInt32.add_comm (UInt32.ofNat i), UInt32.add_assoc]
          rfl
        rw [if_neg found, if_pos hroom, ih (by omega)]
        simp [found, hsteps, Function.comp_def]

theorem countTo?_ancestors {t : TypeTree} (bound : t.size < UInt32.size) (sup sub : TypeId) :
    countTo? sup 0 (t.ancestors sub) = some ((t.distance? sup sub).map .ofNat) := by
  by_cases known : t.Known sub
  · have hlength := length_ancestors_le t sub
    have hnumber : sub.toNat < t.size := known
    have hroom : (0 : UInt32).toNat + (t.ancestors sub).length < UInt32.size := by
      rw [UInt32.toNat_zero]
      omega
    rw [countTo?_eq hroom, distance?]
    simp
  · have hnone : t.ancestors sub = [] := by rw [ancestors, if_neg known]
    rw [distance?, hnone]
    rfl

end TypeTree

/-! ## Ranks -/

namespace Rank

theorem withValue_before_none {a b : Rank} {n : Nat} (context : a.context = b.context)
    (h : n < noDistance) : (a.withValue (some n)).before (b.withValue none) = true :=
  (before_iff _ _).mpr (.inr ⟨context, h⟩)

end Rank

namespace TypeTree

/-- In a tree that has come to less than 2³² types, each type that was added was given a number of
its own, steps are counted in 32 bits without overflow, and every distance is less than the largest
number of 32 bits. So of two ranks, or of two providers for a search that converts, whose contexts
are equally close, one with a distance of values comes before one without, and not after it. -/
theorem numbers_fit {σ α : Type} {ops : List Operation} {t : TypeTree}
    (reached : initial.run ops = t) (bound : t.size < UInt32.size) :
    (∀ before op after, ops = before ++ op :: after → (initial.run before).IssuesNew op) ∧
    (∀ sup sub, countTo? sup 0 (t.ancestors sub) = some ((t.distance? sup sub).map .ofNat)) ∧
    (∀ a b n, t.distance? a b = some n ∨ t.distanceBetween? a b = some n →
      n < UInt32.size - 1 ∧
      ∀ near far : Rank, near.context = far.context →
        (near.withValue (some n)).before (far.withValue none) = true ∧
        (far.withValue none).before (near.withValue (some n)) = false) ∧
    ∀ (types : TypeSystem σ α) (context valueType : TypeId) (p q : Provider σ α),
      types.tree = t →
      ContextDistance.between t context p.contextType = .between t context q.contextType →
      (t.distanceBetween? p.valueType valueType).isSome = true →
      t.distanceBetween? q.valueType valueType = none →
        ((Stage.converting types context valueType).rank p).before
          ((Stage.converting types context valueType).rank q) = true := by
  subst reached
  have fits {a b : TypeId} {n : Nat}
      (h : (initial.run ops).distance? a b = some n ∨
        (initial.run ops).distanceBetween? a b = some n) : n < Rank.noDistance := by
    have hsize : n < (initial.run ops).size := h.elim distance?_lt distanceBetween?_lt
    rw [Rank.noDistance]
    omega
  refine ⟨?_, countTo?_ancestors bound, ?_, ?_⟩
  · rintro before op after rfl
    have consistent : (initial.run before).Consistent := Reachable.consistent ⟨before, rfl⟩
    have hstep := (step_grows consistent op).consistent consistent
    have hrun : initial.run (before ++ op :: after) = ((initial.run before).step op).1.run after :=
      List.foldl_append
    have hsize := (run_grows hstep after).extends.size_le
    rw [← hrun] at hsize
    exact step_issues consistent op (Nat.le_of_lt (Nat.lt_of_le_of_lt hsize bound))
  · intro a b n h
    refine ⟨fits h, fun near far context => ?_⟩
    have hbefore := Rank.withValue_before_none context (fits h)
    exact ⟨hbefore, Rank.before_asymm hbefore⟩
  · rintro types context valueType p q htree hcontext hp hq
    obtain ⟨n, hn⟩ := Option.isSome_iff_exists.mp hp
    have hcontexts : ContextDistance.between types.tree context p.contextType =
        .between types.tree context q.contextType := by rw [htree, hcontext]
    have hranks := Rank.withValue_before_none (a := .ofContext types.tree context p.contextType)
      (b := .ofContext types.tree context q.contextType) hcontexts (fits (.inr hn))
    rw [← htree] at hn hq
    simp only [Stage.converting, hn, hq]
    exact hranks

/-- The arrays of players are numbered after those of everything. Two steps lead from admins up to
the root. A search that wants admins and converts prefers a provider of players to one of arrays. -/
theorem arrays_of_players_numbered :
    let defined := initial.run [.define "Player" .root, .define "Admin" player]
    let ofPlayers := { (default : Provider Unit Unit) with valueType := player }
    let ofArrays := { ofPlayers with valueType := .ofNat 4 }
    let stage : Stage Unit Unit := .converting { tree := players } .root admin
    (defined.issued players).map TypeId.toNat = [3, 4] ∧
      countTo? .root 0 (players.ancestors admin) = some (some 2) ∧
      2 < UInt32.size - 1 ∧
      (stage.rank ofPlayers).before (stage.rank ofArrays) = true := by
  intro defined ofPlayers ofArrays stage
  have reached : initial.run [.define "Player" .root, .define "Admin" player, .arrayOf player] =
      players := rfl
  obtain ⟨hissued, hcount, hfits, hranks⟩ := @numbers_fit Unit Unit _ _ reached (by decide +kernel)
  have hdistance : players.distance? .root admin = some 2 := by decide +kernel
  have hsizes : List.range' defined.size (players.size - defined.size) = [3, 4] := by decide +kernel
  refine ⟨?_, ?_, (hfits .root admin 2 (.inl hdistance)).1, ?_⟩
  · have issues := hissued [.define "Player" .root, .define "Admin" player] (.arrayOf player) [] rfl
    exact issues.in_order.trans hsizes
  · rw [hcount, hdistance]
    rfl
  · exact hranks _ _ _ _ _ rfl rfl (by decide +kernel) (by decide +kernel)

end TypeTree

end Provision
