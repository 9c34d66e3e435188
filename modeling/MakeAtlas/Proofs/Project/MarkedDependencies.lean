import MakeAtlas.Proofs.Project.AssembledTasks

/-!
# The mark for other projects' tasks

What a task depends on is the build task of every project depended on, marked by a caret in front of
its key, or a task of the same project by its key. Names of targets hold no caret, but a prefix for
the keys may begin with one. Then every key begins as the mark does: a task of the same project
cannot be told from one of other projects, and is not looked for among the project's tasks.

## Key results

- `isForDependencies_taskKey`: which keys begin as the mark does
- `mem_dependsOn_cases`: what the tasks of a project depend on
- `unambiguous_tasks_iff`: when the mark tells the one kind from the other
- `marksDependencies_tasks`: the same of every Makefile, and which tasks are looked for
- `ambiguous_with_caret`: an accepted prefix with which it does not
-/

namespace MakeAtlas.Project

open MakeAtlas.Record

variable {pre : Option String} {targets : Table (List String)} {root : String}

/-- Whether a prefix begins as the mark for other projects' tasks does. -/
def beginsMarked (pre : Option String) : Bool :=
  pre.any Task.isForDependencies

/-- What the task under a key depends on is the build task of other projects, marked, and the task
    builds its own project. -/
def IsAggregate (pre : Option String) (key dependency : String) : Prop :=
  ∃ target, isBuildTarget target = true ∧ key = taskKey pre target ∧
    dependency = "^" ++ taskKey pre "build"

/-- The mark tells tasks of other projects from those of the same project: what begins with it is
    the build task of other projects, and everything else that a task depends on is one of the
    tasks. -/
def Unambiguous (pre : Option String) (tasks : Table Task) : Prop :=
  ∀ entry ∈ tasks, ∀ dependency ∈ entry.2.dependsOn,
    (Task.isForDependencies dependency = true ↔ IsAggregate pre entry.1 dependency) ∧
      (¬ IsAggregate pre entry.1 dependency →
        dependency ∈ tasks.keys ∧ Task.isForDependencies dependency = false)

/-- The key of a target begins as the mark does exactly if the prefix does. -/
theorem isForDependencies_taskKey {target : String} (h : '^' ∉ target.toList) :
    Task.isForDependencies (taskKey pre target) = beginsMarked pre := by
  have hbare : Task.isForDependencies target = false := by
    rw [Task.isForDependencies, beq_eq_false_iff_ne]
    exact fun hhead => h (List.mem_of_mem_head? hhead)
  cases pre with
  | none => exact hbare
  | some p =>
    rw [Task.isForDependencies, toList_taskKey, keyFront, beginsMarked, Option.any_some]
    cases hp : p.isEmpty with
    | true =>
      rw [String.isEmpty_iff.1 hp]
      exact hbare
    | false =>
      have hne : p.toList ≠ [] := by
        rw [String.isEmpty_eq_false_iff] at hp
        exact mt String.toList_eq_nil_iff.1 hp
      rw [if_neg Bool.false_ne_true, List.append_assoc, List.head?_append_of_ne_nil _ hne,
        Task.isForDependencies]

/-- The marked build task of other projects is no target of the project. -/
theorem not_isAggregate_taskKey {key peer : String} (h : '^' ∉ peer.toList) :
    ¬ IsAggregate pre key (taskKey pre peer) := by
  rintro ⟨-, -, -, heq⟩
  exact taskKey_ne_dependencyBuild h heq

theorem isForDependencies_of_isAggregate {key dependency : String}
    (h : IsAggregate pre key dependency) : Task.isForDependencies dependency = true := by
  obtain ⟨-, -, -, rfl⟩ := h
  exact isForDependencies_dependencyBuild pre

/-! ## What the tasks of a project depend on -/

section Tasks

variable (nodup : targets.keys.Nodup) (plain : ∀ key ∈ targets.keys, '^' ∉ key.toList)

include nodup plain

/-- What a task depends on is the build task of other projects, or one of the project's tasks that
    begins as the prefix does. -/
theorem mem_dependsOn_cases {entry : String × Task} (hentry : entry ∈ tasks root targets pre)
    {dependency : String} (h : dependency ∈ entry.2.dependsOn) :
    IsAggregate pre entry.1 dependency ∨
      dependency ∈ (tasks root targets pre).keys ∧ ¬ IsAggregate pre entry.1 dependency ∧
        Task.isForDependencies dependency = beginsMarked pre := by
  rcases mem_tasks_cases nodup hentry with ⟨target, prerequisites, rfl⟩ | rfl
  · have hmem : dependency ∈ taskDependencies targets pre target prerequisites := h
    rw [taskDependencies_eq plain, List.mem_append] at hmem
    rcases hmem with haggregate | hpeer
    · split at haggregate
      · next hbuild => exact Or.inl ⟨target, hbuild, rfl, List.mem_singleton.1 haggregate⟩
      · cases haggregate
    · obtain ⟨peer, hmem, rfl⟩ := List.mem_map.1 hpeer
      have htarget := mem_peersOf hmem
      have hplain := plain peer htarget
      exact Or.inr ⟨taskKey_mem_keys_tasks nodup htarget, not_isAggregate_taskKey hplain,
        isForDependencies_taskKey hplain⟩
  · -- the task that serves the project depends on nothing
    cases h

/-- What a task depends on begins with the mark if it is the build task of other projects, or if the
    prefix begins with it. -/
theorem isForDependencies_iff {entry : String × Task} (hentry : entry ∈ tasks root targets pre)
    {dependency : String} (h : dependency ∈ entry.2.dependsOn) :
    Task.isForDependencies dependency = true ↔
      IsAggregate pre entry.1 dependency ∨ beginsMarked pre = true := by
  rcases mem_dependsOn_cases nodup plain hentry h with haggregate | ⟨-, hnot, hmark⟩
  · exact iff_of_true (isForDependencies_of_isAggregate haggregate) (Or.inl haggregate)
  · rw [hmark, or_iff_right hnot]

/-- The mark tells the two kinds apart exactly if the prefix does not begin with it, or there is
    only the one kind. -/
theorem unambiguous_tasks_iff :
    Unambiguous pre (tasks root targets pre) ↔ beginsMarked pre = false ∨
      ∀ entry ∈ tasks root targets pre, ∀ dependency ∈ entry.2.dependsOn,
        IsAggregate pre entry.1 dependency := by
  constructor
  · intro hunambiguous
    cases hmarked : beginsMarked pre with
    | false => exact Or.inl rfl
    | true =>
      -- then all begins with the mark, so all has to be of the one kind
      refine Or.inr fun entry hentry dependency hmem => ?_
      exact (hunambiguous entry hentry dependency hmem).1.1
        ((isForDependencies_iff nodup plain hentry hmem).2 (Or.inr hmarked))
  · intro h entry hentry dependency hmem
    rcases mem_dependsOn_cases nodup plain hentry hmem with haggregate | ⟨hkey, hnot, hmark⟩
    · exact ⟨iff_of_true (isForDependencies_of_isAggregate haggregate) haggregate,
        fun hnot => absurd haggregate hnot⟩
    · have hbare : beginsMarked pre = false :=
        h.resolve_right fun hall => hnot (hall entry hentry dependency hmem)
      rw [hbare] at hmark
      exact ⟨iff_of_false (ne_true_of_eq_false hmark) hnot, fun _ => ⟨hkey, hmark⟩⟩

/-- The tasks that are looked for among those of the project are the ones that its tasks depend on
    without the mark, none if the prefix begins with it. -/
theorem mem_peerReferences_tasks {reference : String × String} :
    reference ∈ Node.peerReferences (tasks root targets pre) ↔ beginsMarked pre = false ∧
      ∃ entry ∈ tasks root targets pre, ∃ peer ∈ entry.2.dependsOn,
        ¬ IsAggregate pre entry.1 peer ∧ (entry.1, peer) = reference := by
  rw [Node.mem_peerReferences]
  constructor
  · rintro ⟨entry, hentry, peer, hpeer, hwithin, rfl⟩
    rw [← Bool.not_eq_true, isForDependencies_iff nodup plain hentry hpeer, not_or,
      Bool.not_eq_true] at hwithin
    exact ⟨hwithin.2, entry, hentry, peer, hpeer, hwithin.1, rfl⟩
  · rintro ⟨hbare, entry, hentry, peer, hpeer, hnot, rfl⟩
    refine ⟨entry, hentry, peer, hpeer, ?_, rfl⟩
    rw [← Bool.not_eq_true, isForDependencies_iff nodup plain hentry hpeer, hbare]
    exact fun h => h.elim hnot Bool.false_ne_true

end Tasks

/-- How what the tasks of a project depend on is marked. -/
structure MarksDependencies (pre : Option String) (tasks : Table Task) : Prop where
  /-- What a task depends on is the build task of other projects or else one of the tasks, -/
  told_apart : ∀ entry ∈ tasks, ∀ dependency ∈ entry.2.dependsOn,
    IsAggregate pre entry.1 dependency ∨
      dependency ∈ tasks.keys ∧ ¬ IsAggregate pre entry.1 dependency
  /-- and begins with the mark if it is the first, or if the prefix does. -/
  marked_iff : ∀ entry ∈ tasks, ∀ dependency ∈ entry.2.dependsOn,
    (Task.isForDependencies dependency = true ↔
      IsAggregate pre entry.1 dependency ∨ beginsMarked pre = true)
  /-- So the mark tells the one from the other exactly if the prefix does not begin with it, or no
  task depends on another one of the project. -/
  unambiguous_iff : Unambiguous pre tasks ↔ beginsMarked pre = false ∨
    ∀ entry ∈ tasks, ∀ dependency ∈ entry.2.dependsOn, IsAggregate pre entry.1 dependency
  /-- The tasks that are looked for among those of the project are all that it depends on in
  itself, unless the prefix begins with the mark: then none are. -/
  looked_for : ∀ reference, (reference ∈ Node.peerReferences tasks ↔ beginsMarked pre = false ∧
    ∃ entry ∈ tasks, ∃ peer ∈ entry.2.dependsOn,
      ¬ IsAggregate pre entry.1 peer ∧ (entry.1, peer) = reference)

/-- Whatever the Makefile's text is, whatever stands in front of the keys of tasks, and wherever the
    project lies: what its tasks depend on is rightly marked unless the prefix begins with the
    mark. -/
theorem marksDependencies_tasks (text : String) (pre : Option String) (root : String) :
    MarksDependencies pre (tasks root (Makefile.targets text) pre) := by
  have nodup := Makefile.nodup_targets text
  have plain : ∀ key ∈ (Makefile.targets text).keys, '^' ∉ key.toList :=
    fun _ hkey => Makefile.not_caret_of_mem_targets hkey
  refine ⟨?_, ?_, unambiguous_tasks_iff nodup plain, ?_⟩
  · intro entry hentry dependency hmem
    exact (mem_dependsOn_cases nodup plain hentry hmem).imp_right fun h => ⟨h.1, h.2.1⟩
  · intro entry hentry dependency hmem
    exact isForDependencies_iff nodup plain hentry hmem
  · intro reference
    exact mem_peerReferences_tasks nodup plain

/-- A prefix that begins with the mark is accepted: a task of the project then reads as the mark in
    front of another task's key, and is not looked for. -/
theorem ambiguous_with_caret :
    parse Settings.title Settings.read (.table [("targetName", .text "^x")]) =
        .ok { taskPrefix := some "^x" } ∧
      (tasks "." (Makefile.targets "all: test\ntest:\n") (some "^x")).map
          (fun entry => (entry.1, entry.2.dependsOn)) =
        [("^x:all", ["^^x:build", "^x:test"]), ("^x:test", [])] ∧
      Node.peerReferences (tasks "." (Makefile.targets "all: test\ntest:\n") (some "^x")) = [] ∧
      ¬ Unambiguous (some "^x")
        (tasks "." (Makefile.targets "all: test\ntest:\n") (some "^x")) := by
  refine ⟨rfl, rfl, rfl, fun hunambiguous => ?_⟩
  have haggregate : IsAggregate (some "^x") "^x:all" "^x:test" :=
    (hunambiguous _ List.mem_cons_self "^x:test"
      (List.mem_cons_of_mem _ List.mem_cons_self)).1.1 rfl
  obtain ⟨-, -, -, heq⟩ := haggregate
  revert heq
  decide

end MakeAtlas.Project
