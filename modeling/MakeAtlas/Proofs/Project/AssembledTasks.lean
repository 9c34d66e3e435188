import MakeAtlas.Inference.Nodes
import MakeAtlas.Proofs.DistinctBlocks
import MakeAtlas.Proofs.Project.Records
import MakeAtlas.Proofs.TableKeys
import Mathlib.Data.List.Nodup
import Mathlib.Data.List.TakeWhile

/-!
# Tasks assembled from a Makefile

What tasks a project gets from the targets of its Makefile, said without the folds that put them
together: one task for each target, in order, and one that serves the project if it can be built
and run. No text of a Makefile leads to tasks that reading would refuse: no two tasks share a key,
no task depends on another twice, and what a task depends on within its project is one of the
project's tasks.

## Key results

- `not_caret_of_mem_targets`: no target has a name that could be taken for other projects' tasks
- `taskDependencies_eq`: what a task depends on, in closed form
- `tasks_eq`: all tasks, in closed form
- `isAssembly_tasks`: the tasks one by one
- `assembled_and_accepted`: whatever the Makefile's text is, its tasks and its node are accepted
-/

namespace MakeAtlas

/-! ## Names of targets -/

namespace Makefile

/-- The names of targets are made of the characters of names. -/
theorem isNameChar_of_mem_targets {text : String} {target : String}
    (h : target ∈ (targets text).keys) {c : Char} (hc : c ∈ target.toList) :
    isNameChar c = true := by
  obtain ⟨entry, hentry, rfl⟩ := Table.mem_keys_ofList.1 h
  obtain ⟨line, -, hline⟩ := List.mem_filterMap.1 hentry
  obtain ⟨⟨name, rest⟩, hfound, rfl⟩ := Option.map_eq_some_iff.1 hline
  unfold targetLine? at hfound
  dsimp only at hfound
  split at hfound
  · cases hfound
  · cases hfound
  · split at hfound
    · cases hfound
    · cases hfound
      rw [String.toList_ofList] at hc
      exact List.mem_takeWhile_imp hc
  · cases hfound

theorem not_caret_of_mem_targets {text : String} {target : String}
    (h : target ∈ (targets text).keys) : '^' ∉ target.toList := by
  intro hc
  have hname := isNameChar_of_mem_targets h hc
  exact absurd hname (by decide)

theorem nodup_targets (text : String) : (targets text).keys.Nodup :=
  Table.nodup_keys_ofList _

end Makefile

namespace Project

/-! ## Keys of tasks -/

/-- What stands in front of a target's name in the key of its task. -/
def keyFront (pre : Option String) : List Char :=
  match pre with
  | none => []
  | some p => if p.isEmpty then [] else p.toList ++ [':']

theorem toList_taskKey (pre : Option String) (target : String) :
    (taskKey pre target).toList = keyFront pre ++ target.toList := by
  cases pre with
  | none => rfl
  | some p =>
    simp only [taskKey, keyFront]
    split <;> simp

/-- Targets of different names have tasks of different keys. -/
theorem taskKey_injective (pre : Option String) : Function.Injective (taskKey pre) := by
  intro a b h
  have hlists := congrArg String.toList h
  rw [toList_taskKey, toList_taskKey] at hlists
  exact String.toList_injective (List.append_cancel_left hlists)

/-- A front that may be repeated behind a caret is made of carets. -/
private theorem eq_caret_of_caret_cons_append {front build target : List Char}
    (h : '^' :: (front ++ build) = front ++ target) : ∀ c ∈ front, c = '^' := by
  induction front with
  | nil => simp
  | cons c front ih =>
    rw [List.cons_append, List.cons_append, List.cons.injEq] at h
    obtain ⟨rfl, hrest⟩ := h
    exact List.forall_mem_cons.2 ⟨rfl, ih hrest⟩

/-- The build tasks of other projects are no task of the project, whatever the prefix is. -/
theorem taskKey_ne_dependencyBuild {pre : Option String} {target : String}
    (h : '^' ∉ target.toList) : taskKey pre target ≠ dependencyBuild pre := by
  intro heq
  have hlists := congrArg String.toList heq
  rw [dependencyBuild, String.toList_append, toList_taskKey, toList_taskKey] at hlists
  have hlists : '^' :: (keyFront pre ++ "build".toList) = keyFront pre ++ target.toList :=
    hlists.symm
  have hcarets := eq_caret_of_caret_cons_append hlists
  by_cases hfront : keyFront pre = []
  · rw [hfront, List.nil_append, List.nil_append] at hlists
    exact h (hlists ▸ List.mem_cons_self)
  · -- a front ends in a colon
    have hcolon : ':' ∈ keyFront pre := by
      unfold keyFront at hfront ⊢
      split at hfront
      · exact absurd rfl hfront
      · split at hfront
        · exact absurd rfl hfront
        · next hp => simp [hp]
    exact absurd (hcarets ':' hcolon) (by decide)

/-- What begins with a caret is not looked for among the tasks of the project. -/
theorem isForDependencies_dependencyBuild (pre : Option String) :
    Task.isForDependencies (dependencyBuild pre) = true := by
  simp [Task.isForDependencies, dependencyBuild]

/-! ## What a task depends on -/

/-- Adding what is not there yet, member by member, adds the first of each kind. -/
private theorem foldl_add_eq (found peers : List String) :
    peers.foldl (fun found peer => if found.contains peer then found else found ++ [peer]) found =
      found ++ distinctFrom id found peers := by
  induction peers generalizing found with
  | nil => simp [distinctFrom]
  | cons peer peers ih =>
    rw [List.foldl_cons]
    by_cases hpeer : peer ∈ found
    · rw [if_pos (List.contains_iff_mem.2 hpeer), ih, distinctFrom,
        if_pos (show id peer ∈ found from hpeer)]
    · have hnew : ¬ found.contains peer = true := fun h => hpeer (List.contains_iff_mem.1 h)
      rw [if_neg hnew, ih, distinctFrom, if_neg (show id peer ∉ found from hpeer),
        List.append_assoc, List.singleton_append]
      congr 2
      -- whether the new member stands first or last among those found does not matter
      apply distinctFrom_congr
      intro other _
      simp [or_comm]

/-- The prerequisites of a target that are other targets, each once, as first mentioned. -/
def peersOf (targets : Table (List String)) (target : String) (prerequisites : List String) :
    List String :=
  distinctBy id (prerequisites.filter fun p => p ≠ target ∧ p ∈ targets.keys)

theorem mem_peersOf {targets : Table (List String)} {target : String}
    {prerequisites : List String} {peer : String}
    (h : peer ∈ peersOf targets target prerequisites) : peer ∈ targets.keys := by
  have hmem := (List.mem_filter.1 (mem_of_mem_distinctBy h)).2
  exact (of_decide_eq_true hmem).2

theorem nodup_peersOf (targets : Table (List String)) (target : String)
    (prerequisites : List String) : (peersOf targets target prerequisites).Nodup := by
  have hnodup := nodup_map_distinctBy id
    (prerequisites.filter fun p => p ≠ target ∧ p ∈ targets.keys)
  rwa [List.map_id] at hnodup

variable {targets : Table (List String)} {pre : Option String}

/-- What a target's task depends on: the build tasks of other projects if the target builds the
    project, and then the tasks of the target's peers. -/
theorem taskDependencies_eq (plain : ∀ key ∈ targets.keys, '^' ∉ key.toList) (target : String)
    (prerequisites : List String) :
    taskDependencies targets pre target prerequisites =
      (if isBuildTarget target then [dependencyBuild pre] else []) ++
        (peersOf targets target prerequisites).map (taskKey pre) := by
  have hfilter : (prerequisites.filter fun p => p != target && targets.has p) =
      prerequisites.filter fun p => p ≠ target ∧ p ∈ targets.keys := by
    refine List.filter_congr fun p _ => ?_
    rw [Bool.eq_iff_iff]
    simp [Table.has_eq_true_iff]
  unfold taskDependencies
  dsimp only
  rw [hfilter, foldl_add_eq, peersOf]
  congr 1
  -- no peer is among what is there before the peers
  have hseen : ∀ peer ∈ (prerequisites.filter fun p =>
      decide (p ≠ target ∧ p ∈ targets.keys)).map (taskKey pre),
      id peer ∈ (if isBuildTarget target then [dependencyBuild pre] else []) ↔
        id peer ∈ ([] : List String) := by
    intro peer hpeer
    obtain ⟨p, hp, rfl⟩ := List.mem_map.1 hpeer
    have hkey : p ∈ targets.keys := (of_decide_eq_true (List.mem_filter.1 hp).2).2
    have hne : taskKey pre p ≠ dependencyBuild pre := taskKey_ne_dependencyBuild (plain p hkey)
    split <;> simp [hne]
  rw [distinctFrom_congr hseen, ← distinctBy, distinctBy_map]
  exact congrArg (List.map (taskKey pre)) (distinctBy_injective (taskKey_injective pre) id _)

/-- A task depends on nothing twice. -/
theorem nodup_taskDependencies (plain : ∀ key ∈ targets.keys, '^' ∉ key.toList) (target : String)
    (prerequisites : List String) :
    (taskDependencies targets pre target prerequisites).Nodup := by
  have hpeers : ((peersOf targets target prerequisites).map (taskKey pre)).Nodup :=
    (nodup_peersOf targets target prerequisites).map (taskKey_injective pre)
  rw [taskDependencies_eq plain]
  split
  · rw [List.singleton_append, List.nodup_cons]
    refine ⟨?_, hpeers⟩
    intro hmem
    obtain ⟨peer, hpeer, heq⟩ := List.mem_map.1 hmem
    have hplain := plain peer (mem_peersOf hpeer)
    exact taskKey_ne_dependencyBuild hplain heq
  · exact hpeers

/-- What a task depends on within the project is the task of another target. -/
theorem exists_peer_of_mem_taskDependencies (plain : ∀ key ∈ targets.keys, '^' ∉ key.toList)
    {target : String} {prerequisites : List String} {dependency : String}
    (h : dependency ∈ taskDependencies targets pre target prerequisites)
    (hwithin : Task.isForDependencies dependency = false) :
    ∃ peer ∈ targets.keys, taskKey pre peer = dependency := by
  rw [taskDependencies_eq plain, List.mem_append] at h
  rcases h with haggregate | hpeers
  · split at haggregate
    · rw [List.mem_singleton.1 haggregate, isForDependencies_dependencyBuild] at hwithin
      cases hwithin
    · cases haggregate
  · obtain ⟨peer, hpeer, rfl⟩ := List.mem_map.1 hpeers
    exact ⟨peer, mem_peersOf hpeer, rfl⟩

/-! ## All tasks -/

/-- A Makefile has a target that builds the project, and one that runs it. -/
def BuildsAndRuns (targets : Table (List String)) : Prop :=
  (∃ target ∈ ["build", "compile", "all"], target ∈ targets.keys) ∧ "run" ∈ targets.keys

theorem isServed_iff : isServed targets = true ↔ BuildsAndRuns targets := by
  rw [isServed, Bool.and_eq_true, Table.has_eq_true_iff, List.any_eq_true, BuildsAndRuns]
  refine and_congr_left fun _ => ?_
  simp only [isBuildTarget, buildTargets, List.contains_iff_mem]
  exact exists_congr fun target => and_comm

/-- The targets of a Makefile that keep their own tasks: a served project has another task in the
    place of `serve`. -/
def kept (targets : Table (List String)) : Table (List String) :=
  if isServed targets then targets.filter fun entry => entry.1 ≠ "serve" else targets

/-- All tasks of a project: those of the targets that keep them, and at the end the one that serves
    the project if it can be built and run. -/
theorem tasks_eq (nodup : targets.keys.Nodup) (root : String) :
    tasks root targets pre =
      ((kept targets).map fun entry =>
        (taskKey pre entry.1, targetTask root targets pre entry.1 entry.2)) ++
        if isServed targets then [(taskKey pre "serve", serveTask pre)] else [] := by
  have hown : targetTasks root targets pre = targets.map fun entry =>
      (taskKey pre entry.1, targetTask root targets pre entry.1 entry.2) := by
    refine Table.ofList_eq_self ?_
    have hkeys := nodup.map (taskKey_injective pre)
    rw [Table.keys, List.map_map] at hkeys
    rwa [Table.keys, List.map_map]
  unfold tasks kept
  dsimp only
  rw [hown]
  split
  · rw [Table.erase, List.filter_map]
    congr 2
    refine List.filter_congr fun entry _ => ?_
    -- keys differ as names do
    have hkey : taskKey pre entry.1 = taskKey pre "serve" ↔ entry.1 = "serve" :=
      (taskKey_injective pre).eq_iff
    rw [Bool.eq_iff_iff]
    simp [serveTask, hkey]
  · rw [List.append_nil]

/-- The tasks of a project, told by the targets of its Makefile. -/
structure IsAssembly (root : String) (pre : Option String) (targets : Table (List String))
    (tasks : Table Task) : Prop where
  /-- There is one task for each target, in order. If the project can be built and run, the task
      that serves it comes last, and a target `serve` has no task of its own. -/
  keys_served : BuildsAndRuns targets →
    tasks.keys = (targets.keys.filter (· ≠ "serve") ++ ["serve"]).map (taskKey pre)
  keys_unserved : ¬ BuildsAndRuns targets → tasks.keys = targets.keys.map (taskKey pre)
  /-- No two tasks share a key. -/
  keys_nodup : tasks.keys.Nodup
  /-- The task of a target makes the target in the project's root. It depends on the build tasks of
      other projects, first of all and only if the target builds the project, and then on the
      prerequisites that are other targets, each once and as first mentioned. -/
  target_task : ∀ target prerequisites, (target, prerequisites) ∈ targets →
    (target = "serve" → ¬ BuildsAndRuns targets) →
    ∃ metadata, tasks.get? (taskKey pre target) = some
      { name := taskKey pre target
        invocation := .make target root
        dependsOn :=
          (if target ∈ ["build", "compile", "all"] then ["^" ++ taskKey pre "build"] else []) ++
            (distinctBy id (prerequisites.filter fun p => p ≠ target ∧ p ∈ targets.keys)).map
              (taskKey pre)
        metadata }
  /-- The task that serves a project watches it, and runs it again. -/
  serve_task : BuildsAndRuns targets →
    ∃ metadata, tasks.get? (taskKey pre "serve") = some
      { name := taskKey pre "serve"
        invocation := .watch { runTask := taskKey pre "run" }
        dependsOn := []
        metadata }

theorem keys_tasks (nodup : targets.keys.Nodup) (root : String) :
    (tasks root targets pre).keys =
      ((kept targets).keys ++ if isServed targets then ["serve"] else []).map (taskKey pre) := by
  rw [tasks_eq nodup, Table.keys, Table.keys, List.map_append, List.map_append, List.map_map,
    List.map_map]
  split <;> rfl

/-- Serving a project adds a key that its other targets do not have. -/
private theorem nodup_kept (nodup : targets.keys.Nodup) :
    ((kept targets).keys ++ if isServed targets then ["serve"] else []).Nodup := by
  unfold kept
  split
  · rw [List.nodup_append]
    refine ⟨nodup.sublist (List.filter_sublist.map _), List.nodup_singleton _, ?_⟩
    intro a ha b hb
    obtain ⟨entry, hentry, rfl⟩ := List.mem_map.1 ha
    rw [List.mem_singleton.1 hb]
    exact of_decide_eq_true (List.mem_filter.1 hentry).2
  · rwa [List.append_nil]

/-- The tasks of a project are assembled from the targets of its Makefile. -/
theorem isAssembly_tasks (nodup : targets.keys.Nodup)
    (plain : ∀ key ∈ targets.keys, '^' ∉ key.toList) (root : String) :
    IsAssembly root pre targets (tasks root targets pre) := by
  have hnodup : (tasks root targets pre).keys.Nodup := by
    rw [keys_tasks nodup]
    exact (nodup_kept nodup).map (taskKey_injective pre)
  refine ⟨?_, ?_, hnodup, ?_, ?_⟩
  · intro hserved
    rw [keys_tasks nodup, kept, if_pos (isServed_iff.2 hserved), if_pos (isServed_iff.2 hserved),
      Table.keys, Table.keys, List.filter_map]
    rfl
  · intro hserved
    rw [keys_tasks nodup, kept, if_neg (mt isServed_iff.1 hserved),
      if_neg (mt isServed_iff.1 hserved), List.append_nil]
  · intro target prerequisites hmem hserve
    refine ⟨(targetTask root targets pre target prerequisites).metadata,
      (Table.get?_eq_some_iff_mem hnodup).2 ?_⟩
    have hkept : (target, prerequisites) ∈ kept targets := by
      unfold kept
      split
      · next hserved =>
        have hname : target ≠ "serve" := fun h => hserve h (isServed_iff.1 hserved)
        exact List.mem_filter.2 ⟨hmem, decide_eq_true hname⟩
      · exact hmem
    have hbuild : isBuildTarget target = true ↔ target ∈ ["build", "compile", "all"] := by
      rw [isBuildTarget, buildTargets, List.contains_iff_mem]
    rw [tasks_eq nodup]
    refine List.mem_append_left _ (List.mem_map.2 ⟨_, hkept, ?_⟩)
    simp only [targetTask, taskDependencies_eq plain, hbuild]
    rfl
  · intro hserved
    refine ⟨(serveTask pre).metadata, (Table.get?_eq_some_iff_mem hnodup).2 ?_⟩
    rw [tasks_eq nodup, if_pos (isServed_iff.2 hserved)]
    exact List.mem_append_right _ (List.mem_singleton.2 rfl)

/-! ## Accepted by reading -/

/-- The tasks of a project are its targets' and perhaps the one that serves it. -/
theorem mem_tasks_cases (nodup : targets.keys.Nodup) {root : String} {entry : String × Task}
    (h : entry ∈ tasks root targets pre) :
    (∃ target prerequisites,
      entry = (taskKey pre target, targetTask root targets pre target prerequisites)) ∨
      entry = (taskKey pre "serve", serveTask pre) := by
  rw [tasks_eq nodup, List.mem_append] at h
  rcases h with hown | hserve
  · obtain ⟨⟨target, prerequisites⟩, -, rfl⟩ := List.mem_map.1 hown
    exact Or.inl ⟨target, prerequisites, rfl⟩
  · split at hserve
    · rw [List.mem_singleton.1 hserve]
      exact Or.inr rfl
    · cases hserve

/-- Every target has a task, its own or the one that serves the project. -/
theorem taskKey_mem_keys_tasks (nodup : targets.keys.Nodup) {root : String} {target : String}
    (h : target ∈ targets.keys) : taskKey pre target ∈ (tasks root targets pre).keys := by
  rw [keys_tasks nodup]
  refine List.mem_map_of_mem (List.mem_append.2 ?_)
  unfold kept
  split
  · by_cases hserve : target = "serve"
    · exact Or.inr (List.mem_singleton.2 hserve)
    · obtain ⟨entry, hentry, rfl⟩ := List.mem_map.1 h
      exact Or.inl (List.mem_map_of_mem (List.mem_filter.2 ⟨hentry, decide_eq_true hserve⟩))
  · exact Or.inl h

/-- A node with these tasks keeps the rules that reading checks. -/
theorem isValid_of_tasks (nodup : targets.keys.Nodup)
    (plain : ∀ key ∈ targets.keys, '^' ∉ key.toList) {node : Node} {root : String}
    (htasks : node.tasks = tasks root targets pre) : node.IsValid where
  dependsOn_nodup entry hentry := by
    rw [htasks] at hentry
    rcases mem_tasks_cases nodup hentry with ⟨target, prerequisites, htask⟩ | hserve
    · rw [htask]
      exact nodup_taskDependencies plain target prerequisites
    · rw [hserve]
      exact List.nodup_nil
  peers_known entry hentry peer hpeer hwithin := by
    rw [htasks] at hentry ⊢
    rcases mem_tasks_cases nodup hentry with ⟨target, prerequisites, htask⟩ | hserve
    · rw [htask] at hpeer
      obtain ⟨other, hother, rfl⟩ := exists_peer_of_mem_taskDependencies plain hpeer hwithin
      exact taskKey_mem_keys_tasks nodup hother
    · rw [hserve] at hpeer
      cases hpeer

/-- Whatever the text of a Makefile is, whatever stands in front of the names of tasks, and wherever
    the project lies: its tasks are assembled from the targets of the text, each of them is accepted
    as a task, and the project's node is made and accepted. -/
theorem assembled_and_accepted (text : String) (pre : Option String) :
    (∀ root, IsAssembly root pre (Makefile.targets text)
      (tasks root (Makefile.targets text) pre)) ∧
    (∀ root, ∀ task ∈ (tasks root (Makefile.targets text) pre).values,
      Task.read task.toValue = .ok task) ∧
    (∀ root name makefile,
      let node : Node := ⟨root, name, makefile, tasks root (Makefile.targets text) pre⟩
      Node.read node.toValue = .ok node) ∧
    ∀ (disk : Disk) (location makefile : String) (settings : Settings),
      settings.taskPrefix = pre →
      disk.readText (Disk.pathIn location (Path.normalize makefile)) = .ok (some text.toList) →
      ∃ node, Inference.nodeOf disk location settings makefile = .ok node ∧
        node.tasks = tasks node.root (Makefile.targets text) pre ∧
        Node.read node.toValue = .ok node := by
  have hnodup := Makefile.nodup_targets text
  have hplain : ∀ key ∈ (Makefile.targets text).keys, '^' ∉ key.toList :=
    fun _ hkey => Makefile.not_caret_of_mem_targets hkey
  refine ⟨isAssembly_tasks hnodup hplain, ?_, ?_, ?_⟩
  · intro root task htask
    obtain ⟨entry, hentry, rfl⟩ := List.mem_map.1 htask
    let node : Node := ⟨root, "", "", tasks root (Makefile.targets text) pre⟩
    have hvalid : node.IsValid := isValid_of_tasks hnodup hplain rfl
    exact Task.read_toValue_iff.2 (hvalid.dependsOn_nodup entry hentry)
  · intro root name makefile
    exact Node.read_toValue_iff.2 (isValid_of_tasks hnodup hplain rfl)
  · intro disk location makefile settings hpre htext
    have htasks : (Inference.nodeOfText settings makefile (some text.toList)).tasks =
        tasks (rootOf (Path.normalize makefile)) (Makefile.targets text) pre := by
      simp only [Inference.nodeOfText, Option.map_some, Option.getD_some, String.ofList_toList,
        hpre]
    refine ⟨Inference.nodeOfText settings makefile (some text.toList), ?_, htasks, ?_⟩
    · rw [Inference.nodeOf, htext]
      rfl
    · exact Node.read_toValue_iff.2 (isValid_of_tasks hnodup hplain htasks)

/-- A Makefile that builds a program in parts, runs it and has a target `serve`. -/
def servedText : String :=
  "all: parts main.c run all parts\nparts: serve\nserve: all\nrun: all\n"

/-- A workspace with this Makefile at its root. -/
def servedDisk : Disk :=
  ⟨[("w", .folder [("Makefile", .file (Text.Utf8.encode servedText))])]⟩

/-- The node of this Makefile, with a prefix for its tasks. -/
theorem assembled_and_accepted_served :
    servedDisk.readText (Disk.pathIn "/w" (Path.normalize "Makefile")) =
        .ok (some servedText.toList) ∧
      IsAssembly "." (some "make") (Makefile.targets servedText)
        (tasks "." (Makefile.targets servedText) (some "make")) ∧
      ∃ node, Inference.nodeOf servedDisk "/w" { taskPrefix := some "make" } "Makefile" = .ok node ∧
        node.tasks = tasks node.root (Makefile.targets servedText) (some "make") ∧
        Node.read node.toValue = .ok node := by
  have hread : servedDisk.readText (Disk.pathIn "/w" (Path.normalize "Makefile")) =
      .ok (some servedText.toList) := by decide +kernel
  obtain ⟨hassembly, -, -, hnode⟩ := assembled_and_accepted servedText (some "make")
  exact ⟨hread, hassembly ".", hnode servedDisk "/w" "Makefile" _ rfl hread⟩

-- The parsed target `serve` has given way, and what depends on it depends on the new one.
example : (tasks "." (Makefile.targets servedText) (some "make")).map
    (fun entry => (entry.1, entry.2.dependsOn)) =
    [("make:all", ["^make:build", "make:parts", "make:run"]), ("make:parts", ["make:serve"]),
      ("make:run", ["make:all"]), ("make:serve", [])] := by
  decide +kernel

end Project

end MakeAtlas
