import Provision.Proofs.TypeTree.Run

/-! # Operations that fail

A definition that is refused leaves nothing behind. Where the name of an array, or of one on the way
to it, is taken, the arrays that were made before stay. -/

namespace Provision.TypeTree

section

variable {t grown : TypeTree}

theorem define_failed {name : String} {parent : TypeId} {e : Error}
    (failed : t.step (.define name parent) = (grown, .error e)) : grown = t := by
  rcases define_cases t name parent with ⟨_, hfailed⟩ | ⟨_, hdefine, -⟩
  · exact (Prod.mk.inj (failed.symm.trans hfailed)).1
  · cases (Prod.mk.inj (failed.symm.trans hdefine)).2

/-- What an array that cannot be made leaves behind: the missing ones above it, from the top down to
the first whose name is taken. -/
theorem failed_array_leaves_those_above (reachable : t.Reachable) :
    (∀ name parent e grown, t.step (.define name parent) = (grown, .error e) → grown = t) ∧
    ∀ c e grown, t.step (.arrayOf c) = (grown, .error e) →
      (¬ t.Known c ∧ e = .unknownType c ∧ grown = t) ∨
      ∃ made a rest,
        ((t.ancestors c).filter fun b => (t.arrayType? b).isNone).reverse = made ++ a :: rest ∧
        (∀ b ∈ made, t.lookup? (t.arrayName b) = none) ∧
        (t.lookup? (t.arrayName a)).isSome = true ∧ e = .duplicateName (t.arrayName a) ∧
        grown.nodes.toList = t.nodes.toList ++ made.map grown.arrayNode ∧
        (grown = t ↔ made = []) := by
  have consistent := reachable.consistent
  refine ⟨fun _ _ _ _ failed => define_failed failed, ?_⟩
  intro c e grown failed
  by_cases known : t.Known c
  · right
    have hgrown : (t.arrayOf c).1 = grown := congrArg Prod.fst failed
    have herror : (t.arrayOf c).2 = .error e := congrArg Prod.snd failed
    have hrequested := arrayOf_spec consistent known
    rw [hgrown, herror] at hrequested
    cases hrequested with
    | @stopped made rest a split hmade taken =>
        rw [unmade_eq_filter consistent] at split
        exact ⟨made, a, rest, split, hmade.free, taken, rfl, hmade.nodes_eq, hmade.eq_iff⟩
  · left
    have hunknown : (t, Except.error (.unknownType c)) = (grown, .error e) :=
      (arrayOf_of_unknown known).symm.trans failed
    obtain ⟨rfl, herror⟩ := Prod.mk.inj hunknown
    exact ⟨known, (Except.error.inj herror).symm, rfl⟩

end

/-- Players, and a type that has the name of their arrays. -/
def playersTaken : TypeTree := initial.run [.define "Player" .root, .define "Player[]" .root]

theorem playersTaken_fails : playersTaken.step (.arrayOf player) =
    ((playersTaken.step (.arrayOf player)).1, .error (.duplicateName "Player[]")) := by
  have hresult : (playersTaken.step (.arrayOf player)).2 = .error (.duplicateName "Player[]") := by
    decide +kernel
  rw [← hresult]

/-- There are no arrays of players then, but there are arrays of everything. -/
theorem failure_leaves_arrays_of_root :
    ∃ grown, playersTaken.step (.arrayOf player) = (grown, .error (.duplicateName "Player[]")) ∧
      grown.nodes.toList = playersTaken.nodes.toList ++ [⟨"Object[]", some .root, some .root⟩] ∧
      grown ≠ playersTaken := by
  have reachable : playersTaken.Reachable := ⟨_, rfl⟩
  have known : playersTaken.Known player := by decide +kernel
  have hmissing : ((playersTaken.ancestors player).filter fun b =>
      (playersTaken.arrayType? b).isNone).reverse = [.root, player] := by decide +kernel
  obtain ⟨-, hfailed⟩ := failed_array_leaves_those_above reachable
  rcases hfailed player _ _ playersTaken_fails with
    ⟨unknown, -, -⟩ | ⟨made, a, rest, hsplit, -, htaken, -, hnodes, hsame⟩
  · exact absurd known unknown
  · rw [hmissing] at hsplit
    cases made with
    | nil =>
        obtain ⟨rfl, -⟩ := List.cons_eq_cons.mp hsplit
        have free : playersTaken.lookup? (playersTaken.arrayName .root) = none := by
          decide +kernel
        simp [free] at htaken
    | cons b made =>
        obtain ⟨rfl, hrest⟩ := List.cons_eq_cons.mp hsplit
        obtain ⟨rfl, -⟩ : made = [] ∧ a :: rest = [player] := by
          simpa [List.singleton_eq_append_iff] using hrest
        have hname : (playersTaken.step (.arrayOf player)).1.arrayName .root = "Object[]" := by
          decide +kernel
        have hparent : (playersTaken.step (.arrayOf player)).1.arrayParent .root = .root := by
          decide +kernel
        rw [List.map_singleton, arrayNode, hname, hparent] at hnodes
        exact ⟨_, playersTaken_fails, hnodes, by simp [hsame]⟩

/-- Failure may change a tree. -/
theorem not_all_failures_keep_tree :
    ¬ ∀ (t : TypeTree), t.Reachable → ∀ op e grown, t.step op = (grown, .error e) →
      grown = t := by
  intro h
  have hsame := h playersTaken ⟨_, rfl⟩ (.arrayOf player) _ _ playersTaken_fails
  have hsize : (playersTaken.step (.arrayOf player)).1.size ≠ playersTaken.size := by decide +kernel
  exact hsize (congrArg size hsame)

end Provision.TypeTree
