import MakeAtlas.Proofs.Project.AssembledTasks
import MakeAtlas.Proofs.Settings.Changes

/-!
# Tasks with a prefix

With a prefix, a project has the tasks that it has without one, each under the prefix and a colon:
every comparison of keys that is made while tasks are put together comes out as it does without the
prefix. An accepted prefix holds no colon, so a key is cut at its first colon into the prefix and
the key without it.

## Key results

- `isTaskPrefix_of_accepted`: what the prefix in accepted settings is like
- `prefixed_targetTask`, `prefixed_serveTask`: a task with a prefix is the one without, prefixed
- `cut?_prefixed`: where a key is cut
- `isPrefixed_tasks`: all tasks of a project
-/

namespace MakeAtlas

open MakeAtlas.Record

/-! ## Accepted prefixes -/

/-- A prefix in settings that are accepted is not empty, and holds neither a colon nor a blank. -/
theorem Settings.isTaskPrefix_of_accepted {v : Value} {s : Settings} {p : String}
    (accepted : parse title read v = .ok s) (given : s.taskPrefix = some p) :
    isTaskPrefix p.toList = true := by
  -- the prefix is read again as it was read
  have hread : nullable readPrefix (.text p) = .ok (some p) := by
    have hpart := Setting.read_write_get (parse_eq_ok_iff.1 accepted) .taskPrefix
    rwa [Setting.get, given] at hpart
  obtain ⟨q, hq, heq⟩ := Reading.map_ok_iff.1 hread
  rw [← Option.some.inj heq]
  exact isTaskPrefix_of_readPrefix hq

/-! ## Prefixed keys and tasks -/

/-- A key with a prefix. -/
def prefixed (p key : String) : String :=
  p ++ ":" ++ key

/-- What a task depends on, with a prefix, which stands behind the mark for other projects. -/
def prefixedDependency (p dependency : String) : String :=
  match dependency.toList with
  | '^' :: rest => "^" ++ prefixed p (String.ofList rest)
  | _ => prefixed p dependency

/-- A command that runs a task by its key, with a prefix for the key. -/
def prefixedCommand (p command : String) : String :=
  match Text.after? "nx ".toList command.toList with
  | some key => "nx " ++ prefixed p (String.ofList key)
  | none => command

/-- How a task is run, with a prefix for the task that is run again. -/
def Invocation.prefixed (p : String) : Invocation → Invocation
  | .make target folder => .make target folder
  | .watch w => .watch { w with runTask := MakeAtlas.prefixed p w.runTask }

/-- A task with a prefix: it makes the same target in the same folder, and is described alike. -/
def Task.prefixed (p : String) (t : Task) : Task where
  name := MakeAtlas.prefixed p t.name
  invocation := t.invocation.prefixed p
  dependsOn := t.dependsOn.map (prefixedDependency p)
  metadata :=
    { t.metadata with
      help := t.metadata.help.map fun h => { h with command := prefixedCommand p h.command } }

variable {p : String}

/-- A key is cut at its first colon into the prefix and the key without it. -/
theorem cut?_prefixed (hp : ':' ∉ p.toList) (key : String) :
    Text.cut? ':' (prefixed p key).toList = some (p.toList, key.toList) := by
  have htext : (prefixed p key).toList = p.toList ++ ':' :: key.toList := by
    rw [prefixed, String.toList_append, String.toList_append, List.append_assoc]
    rfl
  rw [htext, Text.cut?_append hp]

theorem prefixedDependency_of_not_mem {dependency : String} (h : '^' ∉ dependency.toList) :
    prefixedDependency p dependency = prefixed p dependency := by
  unfold prefixedDependency
  split
  · next hmark =>
    rw [hmark] at h
    exact absurd List.mem_cons_self h
  · rfl

namespace Project

theorem taskKey_eq_prefixed (hp : p.isEmpty = false) (target : String) :
    taskKey (some p) target = prefixed p (taskKey none target) := by
  simp only [taskKey, hp, Bool.false_eq_true, if_false]
  rfl

/-- The mark for other projects stays in front of the prefix. -/
theorem dependencyBuild_eq_prefixed (hp : p.isEmpty = false) :
    dependencyBuild (some p) = prefixedDependency p (dependencyBuild none) := by
  rw [dependencyBuild, taskKey_eq_prefixed hp]
  rfl

variable {targets : Table (List String)}

/-- What a target's task depends on with a prefix is what it depends on without, prefixed. -/
theorem taskDependencies_eq_map (hp : p.isEmpty = false)
    (plain : ∀ key ∈ targets.keys, '^' ∉ key.toList) (target : String)
    (prerequisites : List String) :
    taskDependencies targets (some p) target prerequisites =
      (taskDependencies targets none target prerequisites).map (prefixedDependency p) := by
  have hpeers : (peersOf targets target prerequisites).map (taskKey (some p)) =
      ((peersOf targets target prerequisites).map (taskKey none)).map (prefixedDependency p) := by
    rw [List.map_map]
    refine List.map_congr_left fun peer hpeer => ?_
    rw [Function.comp_apply, taskKey_eq_prefixed hp]
    exact (prefixedDependency_of_not_mem (plain peer (mem_peersOf hpeer))).symm
  rw [taskDependencies_eq plain, taskDependencies_eq plain, List.map_append, hpeers]
  congr 1
  split
  · rw [dependencyBuild_eq_prefixed hp, List.map_singleton]
  · rfl

/-- The task of a target with a prefix is the one without, prefixed. -/
theorem prefixed_targetTask (hp : p.isEmpty = false)
    (plain : ∀ key ∈ targets.keys, '^' ∉ key.toList) (root target : String)
    (prerequisites : List String) :
    targetTask root targets (some p) target prerequisites =
      (targetTask root targets none target prerequisites).prefixed p := by
  simp only [targetTask, taskDependencies_eq_map hp plain, taskKey_eq_prefixed hp]
  rfl

/-- So is the task that serves the project. -/
theorem prefixed_serveTask (hp : p.isEmpty = false) :
    serveTask (some p) = (serveTask none).prefixed p := by
  simp only [serveTask, taskKey_eq_prefixed hp]
  rfl

/-! ## All tasks -/

/-- The tasks of a project with a prefix, told by those without. -/
structure IsPrefixed (p : String) (bare tasks : Table Task) : Prop where
  /-- They are the tasks without the prefix, in their order, each of them prefixed. -/
  image : tasks = bare.map fun entry => (prefixed p entry.1, entry.2.prefixed p)
  /-- Every key is cut at its first colon into the prefix and the key of the task without it. -/
  cut : ∀ key ∈ tasks.keys, ∃ name ∈ bare.keys, key = prefixed p name ∧
    Text.cut? ':' key.toList = some (p.toList, name.toList)
  /-- No two tasks share a key. -/
  keys_nodup : tasks.keys.Nodup

/-- Whatever the Makefile's text is and wherever the project lies: with a prefix in accepted
    settings, the project has the tasks that it has without one, prefixed. -/
theorem isPrefixed_tasks {v : Value} {settings : Settings}
    (accepted : parse Settings.title Settings.read v = .ok settings)
    (given : settings.taskPrefix = some p) (text root : String) :
    IsPrefixed p (tasks root (Makefile.targets text) none)
      (tasks root (Makefile.targets text) settings.taskPrefix) := by
  have htaskPrefix := Settings.isTaskPrefix_of_accepted accepted given
  simp only [Settings.isTaskPrefix, Bool.and_eq_true, Bool.not_eq_true', List.isEmpty_eq_false_iff,
    List.any_eq_false, Bool.or_eq_true, beq_iff_eq, not_or] at htaskPrefix
  have hp : p.isEmpty = false := by
    rw [String.isEmpty_eq_false_iff]
    exact mt String.toList_eq_nil_iff.2 htaskPrefix.1
  have hcolon : ':' ∉ p.toList := fun hc => (htaskPrefix.2 ':' hc).1 rfl
  have hnodup := Makefile.nodup_targets text
  have hplain : ∀ key ∈ (Makefile.targets text).keys, '^' ∉ key.toList :=
    fun _ hkey => Makefile.not_caret_of_mem_targets hkey
  rw [given]
  have himage : tasks root (Makefile.targets text) (some p) =
      (tasks root (Makefile.targets text) none).map
        fun entry => (prefixed p entry.1, entry.2.prefixed p) := by
    -- the tasks of the targets, and then the one that serves the project
    rw [tasks_eq hnodup, tasks_eq hnodup, List.map_append, List.map_map]
    congr 1
    · refine List.map_congr_left fun entry _ => ?_
      rw [Function.comp_apply, taskKey_eq_prefixed hp, prefixed_targetTask hp hplain]
    · split
      · rw [List.map_singleton, taskKey_eq_prefixed hp, prefixed_serveTask hp]
      · rfl
  refine ⟨himage, ?_, (isAssembly_tasks hnodup hplain root).keys_nodup⟩
  intro key hkey
  rw [himage, Table.keys, List.map_map] at hkey
  obtain ⟨entry, hentry, rfl⟩ := List.mem_map.1 hkey
  exact ⟨entry.1, List.mem_map_of_mem hentry, rfl, cut?_prefixed hcolon entry.1⟩

/-- The blanks around a prefix do not count; with it, all tasks of a Makefile are prefixed, and so
    is what they depend on. -/
theorem isPrefixed_tasks_served :
    parse Settings.title Settings.read (.table [("targetName", .text " make ")]) =
        .ok { taskPrefix := some "make" } ∧
      IsPrefixed "make" (tasks "." (Makefile.targets servedText) none)
        (tasks "." (Makefile.targets servedText) (some "make")) := by
  have haccepted : parse Settings.title Settings.read (.table [("targetName", .text " make ")]) =
      .ok { taskPrefix := some "make" } := rfl
  exact ⟨haccepted, isPrefixed_tasks haccepted rfl servedText "."⟩

end Project

end MakeAtlas
