import MakeAtlas.Project.Dependency
import MakeAtlas.Proofs.Record.Parts

/-!
# Reading back the records of projects

The record of a node or a dependency holds all there is to it: reading it gives the same back. What
a record repeats (the command of a watch) is not read, and what it leaves out (a help or a line that
is not there) is the default of its part.

Nodes are read back exactly if they keep the two rules that reading checks: no task depends on
another twice, and what a task depends on within its project is one of the project's tasks.

## Key results

- `Task.read_toValue_iff`: tasks
- `Node.read_toValue_iff`: nodes
- `Dependency.read_toValue`: dependencies
-/

namespace MakeAtlas

open MakeAtlas.Record

/-! ## Tasks -/

theorem Watch.read_toValue (w : Watch) : Watch.read w.toValue = .ok w :=
  rfl

/-- The record of an invocation tells its kind, and the parts of that kind. -/
theorem Invocation.read_toValue (i : Invocation) : Invocation.read i.toValue = .ok i := by
  cases i with
  | make target folder => rfl
  | watch w => rfl

theorem Help.read_toValue (h : Help) : Help.read h.toValue = .ok h :=
  rfl

theorem Metadata.read_toValue (m : Metadata) : Metadata.read m.toValue = .ok m := by
  obtain ⟨technologies, description, help⟩ := m
  have hlist := list_text_eq_ok technologies
  cases help with
  -- a help that is not there is left out of the record
  | none =>
    show Metadata.mk <$>
      (list text (.list (technologies.map .text))).below (.key "technologies") <*>
        .ok description <*> .ok none = .ok _
    rw [hlist]
    rfl
  | some help =>
    show Metadata.mk <$>
      (list text (.list (technologies.map .text))).below (.key "technologies") <*>
        .ok description <*> .ok (some help) = .ok _
    rw [hlist]
    rfl

theorem Task.repeatedDependency_eq_none_iff {dependsOn : List String} :
    repeatedDependency dependsOn = none ↔ dependsOn.Nodup := by
  unfold repeatedDependency
  split
  · next h => exact iff_of_true rfl h
  · next h => exact iff_of_false (by simp) h

/-- A task is read back exactly if it does not depend on another one twice. -/
theorem Task.read_toValue_iff {t : Task} : Task.read t.toValue = .ok t ↔ t.dependsOn.Nodup := by
  have hparts : Task.read t.toValue = Task.mk <$> .ok t.name <*>
      (Invocation.read t.invocation.toValue).below (.key "invocation") <*>
      (Reading.check repeatedDependency (.list (t.dependsOn.map .text))
        (list text (.list (t.dependsOn.map .text)))).below (.key "dependsOn") <*>
      (Metadata.read t.metadata.toValue).below (.key "metadata") := rfl
  rw [hparts, Invocation.read_toValue, list_text_eq_ok, Metadata.read_toValue,
    ← repeatedDependency_eq_none_iff, Reading.check, Reading.andThen]
  cases repeatedDependency t.dependsOn with
  | none => exact iff_of_true rfl rfl
  | some reason =>
    refine iff_of_false ?_ (by simp)
    intro h
    cases h

/-! ## Nodes -/

namespace Node

/-- What reading checks of a node. -/
structure IsValid (n : Node) : Prop where
  /-- No task depends on another one twice. -/
  dependsOn_nodup : ∀ entry ∈ n.tasks, entry.2.dependsOn.Nodup
  /-- What a task depends on within its project is a task of the project. -/
  peers_known : ∀ entry ∈ n.tasks, ∀ peer ∈ entry.2.dependsOn,
    Task.isForDependencies peer = false → peer ∈ n.tasks.keys

instance (n : Node) : Decidable n.IsValid :=
  decidable_of_iff
    ((∀ entry ∈ n.tasks, entry.2.dependsOn.Nodup) ∧
      ∀ entry ∈ n.tasks, ∀ peer ∈ entry.2.dependsOn,
        Task.isForDependencies peer = false → peer ∈ n.tasks.keys)
    ⟨fun h => ⟨h.1, h.2⟩, fun h => ⟨h.1, h.2⟩⟩

/-- The tasks that are looked for are those that tasks depend on without the mark. -/
theorem mem_peerReferences {tasks : Table Task} {reference : String × String} :
    reference ∈ peerReferences tasks ↔ ∃ entry ∈ tasks, ∃ peer ∈ entry.2.dependsOn,
      Task.isForDependencies peer = false ∧ (entry.1, peer) = reference := by
  simp only [peerReferences, List.mem_flatMap, List.mem_map, List.mem_filter, Bool.not_eq_true',
    and_assoc]

theorem unknownPeer_eq_none_iff {n : Node} :
    n.unknownPeer = none ↔ ∀ entry ∈ n.tasks, ∀ peer ∈ entry.2.dependsOn,
      Task.isForDependencies peer = false → peer ∈ n.tasks.keys := by
  simp only [unknownPeer, Option.map_eq_none_iff, List.find?_eq_none, mem_peerReferences,
    Bool.not_eq_true', ← Table.has_eq_true_iff, Bool.not_eq_false]
  constructor
  · intro h entry hentry peer hpeer hwithin
    exact h (entry.1, peer) ⟨entry, hentry, peer, hpeer, hwithin, rfl⟩
  · rintro h reference ⟨entry, hentry, peer, hpeer, hwithin, rfl⟩
    exact h entry hentry peer hpeer hwithin

/-- A node is read back exactly if it is valid. -/
theorem read_toValue_iff {n : Node} : Node.read n.toValue = .ok n ↔ n.IsValid := by
  have hparts : Node.read n.toValue = Reading.check unknownPeer n.toValue
      (Node.mk <$> .ok n.root <*> .ok n.name <*> .ok n.makefile <*>
        (table Task.read (.table (n.tasks.map fun entry => (entry.1, entry.2.toValue)))).below
          (.key "targets")) := rfl
  have htasks : table Task.read (.table (n.tasks.map fun entry => (entry.1, entry.2.toValue))) =
      .ok n.tasks ↔ ∀ entry ∈ n.tasks, entry.2.dependsOn.Nodup := by
    rw [table_map_eq_ok_iff]
    exact forall₂_congr fun _ _ => Task.read_toValue_iff
  rw [hparts]
  constructor
  · intro h
    cases hread : table Task.read
        (.table (n.tasks.map fun entry => (entry.1, entry.2.toValue))) with
    | faulty faults =>
      rw [hread] at h
      cases h
    | ok tasks =>
      rw [hread] at h
      obtain ⟨hpeers, hnode⟩ := Reading.check_ok_iff.1
        (h : Reading.check unknownPeer _ (.ok (Node.mk n.root n.name n.makefile tasks)) = .ok n)
      have hsame : tasks = n.tasks := congrArg Node.tasks hnode
      rw [hnode] at hpeers
      exact ⟨htasks.1 (hsame ▸ hread), unknownPeer_eq_none_iff.1 hpeers⟩
  · intro h
    rw [htasks.2 h.dependsOn_nodup]
    exact Reading.check_ok_iff.2 ⟨unknownPeer_eq_none_iff.2 h.peers_known, rfl⟩

end Node

/-! ## Dependencies -/

/-- The record of a dependency holds all there is to it. -/
theorem Dependency.read_toValue (d : Dependency) : Dependency.read d.toValue = .ok d := by
  obtain ⟨source, target, evidence, line, hdistinct, hpos⟩ := d
  have hparts : ∀ input, ofParts input source target evidence line =
      .ok ⟨source, target, evidence, line, hdistinct, hpos⟩ := by
    intro input
    rw [ofParts, dif_neg hdistinct, dif_pos hpos]
  cases line with
  -- a line that is not there is left out of the record
  | none => exact hparts _
  | some n =>
    have hline : intBetween 1 none (.int n) = .ok n := by
      have hn : ¬ (n : Int) < (1 : Nat) := by
        have := hpos n rfl
        omega
      show (if (n : Int) < (1 : Nat) then _ else _) = _
      rw [if_neg hn]
      rfl
    show Reading.andThen ((fun s t _ e l => (s, t, e, l)) <$> .ok source <*> .ok target <*>
      .ok () <*> .ok evidence <*> ((intBetween 1 none (.int n)).map some).below (.key "line")) _ = _
    rw [hline]
    exact hparts _

end MakeAtlas
