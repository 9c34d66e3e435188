import MakeAtlas.CommandLine.Show
import MakeAtlas.Proofs.Graph.ElementaryCycles
import MakeAtlas.Proofs.Graph.RoundTrip
import MakeAtlas.Proofs.Inference.Incremental
import MakeAtlas.Proofs.Inference.ProjectPlaces

/-!
# The report of cycles

A request for cycles shows the cycles of the graph that a scan makes, each as a closed round of
dependencies with the files that show them, and fails, if it is asked to, exactly if there is a
cycle. A limit takes from what is shown, and never from the verdict, unless it is refused: then there
is no answer at all.

## Key results

- `Scans.coherent`: the graph of a scan is made of nodes and of what was found between them
- `exists_edge_of_mem_cycleSteps`: every shown step is a dependency with its own evidence
- `cycles_enumerated_and_reported`: what the search finds, and what becomes of it in the answer
- `cycles_not_reported_up_to_large_limit`: a limit with which a cycle is not reported
-/

namespace MakeAtlas.CommandLine

open MakeAtlas.Inference
open MakeAtlas.Graph (IsElementary IsEnumeration DependsOn)

/-- The workspace of a request can be scanned with the settings of the request, and this is its
    graph. -/
def Scans (m : Machine) (disk : Disk) (toolchain : Toolchain) (folder : String) (r : Request)
    (g : Graph) : Prop :=
  ∃ location settings warnings,
    findWorkspace m disk folder r.workspace = .ok location ∧
    findSettings m disk folder location r = .ok settings ∧
    Target.scan ⟨disk, toolchain, location⟩ settings none = .ok (g, warnings)

/-- The answer to a request for cycles of a graph. -/
structure ReportsCycles (g : Graph) (limit : Int) (failOnCycle : Bool) (a : Answer) : Prop where
  /-- The exit status is zero or one, and one exactly if there is a cycle and cycles are not to be
      accepted. -/
  exit_le : a.exit ≤ 1
  exit_eq_one_iff : a.exit = 1 ↔
    failOnCycle = true ∧ ∃ name, Relation.TransGen g.DependsOn name name
  /-- What is shown are the cycles of the graph, each step by step and back to its start. -/
  shown : ∃ found, a.shown = .cycles found ∧
    g.IsEnumeration (some limit) (found.map fun steps => steps.map CycleStep.source) ∧
    (∀ steps ∈ found, steps.map CycleStep.target = (steps.map CycleStep.source).rotate 1) ∧
    ∀ steps ∈ found, ∀ step ∈ steps, ∃ d ∈ g.edges, d.ends = (step.source, step.target) ∧
      d.evidence = step.evidence
  /-- A line is the number of cycles, a cycle, or a dependency of the graph with its evidence. -/
  lines : ∀ line ∈ a.shown.lines,
    (line = "Detected " ++ toString (g.cycles (some limit)).length ++ " cycle(s) in project graph") ∨
    (∃ number, ∃ cycle ∈ g.cycles (some limit), line = cycleLine number cycle) ∨
    ∃ d ∈ g.edges, line = stepLine ⟨d.source, d.target, d.evidence⟩

/-! ## The graph of a scan -/

theorem Scans.coherent {m : Machine} {disk : Disk} {toolchain : Toolchain} {folder : String}
    {r : Request} {g : Graph} (h : Scans m disk toolchain folder r g) : Graph.Coherent g := by
  obtain ⟨location, settings, warnings, -, -, hscan⟩ := h
  obtain ⟨nodes, found, -, rfl⟩ := Graph.exists_nodes_of_scan hscan
  exact Graph.coherent_ofResults

/-! ## The answer -/

section Report

variable {g : Graph} {limit : Int}

/-- The steps that are shown start at the projects of the cycle, in turn. -/
theorem sources_cycleSteps (g : Graph) (cycle : List String) :
    (cycleSteps g cycle).map CycleStep.source = cycle := by
  have hsource : (cycleSteps g cycle).map CycleStep.source = (Graph.steps cycle).map Prod.fst :=
    List.map_map
  rw [hsource, Graph.steps_eq_zip, List.map_fst_zip (List.length_rotate ..).ge]

/-- They lead to the same projects, one place further and back to the start. -/
theorem targets_cycleSteps (g : Graph) (cycle : List String) :
    (cycleSteps g cycle).map CycleStep.target = cycle.rotate 1 := by
  have htarget : (cycleSteps g cycle).map CycleStep.target = (Graph.steps cycle).map Prod.snd :=
    List.map_map
  rw [htarget, Graph.steps_eq_zip, List.map_snd_zip (List.length_rotate ..).le]

/-- Every step of an elementary cycle is shown with the evidence of its dependency. -/
theorem exists_edge_of_mem_cycleSteps (h : Graph.Coherent g) {cycle : List String}
    (helementary : g.IsElementary cycle) {step : CycleStep} (hstep : step ∈ cycleSteps g cycle) :
    ∃ d ∈ g.edges, d.ends = (step.source, step.target) ∧ d.evidence = step.evidence := by
  obtain ⟨⟨source, target⟩, hends, rfl⟩ := List.mem_map.1 hstep
  obtain ⟨d, hd, hdends⟩ := List.mem_map.1 (Graph.dependsOn_of_mem_steps helementary hends)
  have hfile := (Graph.evidence?_eq_some_iff h).2 ⟨d, hd, hdends, rfl⟩
  refine ⟨d, hd, hdends, ?_⟩
  dsimp only
  rw [hfile, Option.getD_some]

/-- The lines for some cycles are a line for each of them and one for each of their steps. -/
theorem mem_cycleLines {number : Nat} {found : List (List CycleStep)} {line : String}
    (h : line ∈ cycleLines number found) :
    ∃ steps ∈ found, (∃ n, line = cycleLine n (steps.map CycleStep.source)) ∨
      ∃ step ∈ steps, line = stepLine step := by
  induction found generalizing number with
  | nil => exact nomatch h
  | cons steps rest ih =>
    rw [cycleLines, List.cons_append, List.mem_cons, List.mem_append, List.mem_map] at h
    rcases h with h | ⟨step, hstep, rfl⟩ | h
    · exact ⟨steps, List.mem_cons_self, Or.inl ⟨number, h⟩⟩
    · exact ⟨steps, List.mem_cons_self, Or.inr ⟨step, hstep, rfl⟩⟩
    · obtain ⟨steps', hsteps', hline⟩ := ih h
      exact ⟨steps', List.mem_cons_of_mem _ hsteps', hline⟩

/-- A request for cycles fails exactly if it is to fail on cycles and some are shown. -/
theorem exit_cyclesAnswer (disk : Disk) (limit : Int) (failOnCycle : Bool)
    (found : List (List CycleStep)) :
    (cyclesAnswer disk (.cycles limit failOnCycle) found).exit =
      if failOnCycle = true ∧ found ≠ [] then 1 else 0 := by
  cases failOnCycle <;> cases found <;> rfl

theorem shown_cyclesAnswer (disk : Disk) (command : Command) (found : List (List CycleStep)) :
    (cyclesAnswer disk command found).shown = .cycles found := by
  unfold cyclesAnswer
  split <;> rfl

/-- What is answered once the graph is there. -/
theorem reportsCycles_cyclesAnswer (h : Graph.Coherent g) (disk : Disk) (failOnCycle : Bool) :
    ReportsCycles g limit failOnCycle (cyclesAnswer disk (.cycles limit failOnCycle)
      ((g.cycles (some limit)).map (cycleSteps g))) := by
  have henumeration := Graph.isEnumeration_cycles h (some limit)
  have hsources : ((g.cycles (some limit)).map (cycleSteps g)).map
      (fun steps => steps.map CycleStep.source) = g.cycles (some limit) := by
    rw [List.map_map]
    exact (List.map_congr_left fun cycle _ => sources_cycleSteps g cycle).trans (List.map_id _)
  have hsteps : ∀ steps ∈ (g.cycles (some limit)).map (cycleSteps g), ∀ step ∈ steps,
      ∃ d ∈ g.edges, d.ends = (step.source, step.target) ∧ d.evidence = step.evidence := by
    rw [List.forall_mem_map]
    exact fun cycle hcycle step =>
      exists_edge_of_mem_cycleSteps h (henumeration.elementary cycle hcycle)
  refine ⟨?_, ?_, ⟨_, shown_cyclesAnswer _ _ _, ?_, ?_, hsteps⟩, ?_⟩
  · rw [exit_cyclesAnswer]
    split <;> decide
  · have hnil : (g.cycles (some limit)).map (cycleSteps g) ≠ [] ↔ g.cycles (some limit) ≠ [] :=
      not_congr List.map_eq_nil_iff
    rw [← Graph.exists_isElementary_iff, ← henumeration.ne_nil_iff, ← hnil, exit_cyclesAnswer]
    split
    · next hfail => exact iff_of_true rfl hfail
    · next hfine => exact iff_of_false (by decide) hfine
  · rw [hsources]
    exact henumeration
  · rw [List.forall_mem_map]
    intro cycle _
    rw [sources_cycleSteps, targets_cycleSteps]
  · intro line hline
    rw [shown_cyclesAnswer, Shown.lines, hsources, List.mem_append, Option.mem_toList,
      detectedLine] at hline
    rcases hline with hline | hline
    · split at hline
      · exact nomatch hline
      · exact Or.inl (Option.some.inj hline).symm
    · obtain ⟨steps, hmem, hkind⟩ := mem_cycleLines hline
      rcases hkind with ⟨number, rfl⟩ | ⟨step, hstep, rfl⟩
      · obtain ⟨cycle, hcycle, rfl⟩ := List.mem_map.1 hmem
        rw [sources_cycleSteps]
        exact Or.inr (Or.inl ⟨number, cycle, hcycle, rfl⟩)
      · obtain ⟨d, hd, hends, hevidence⟩ := hsteps steps hmem step hstep
        obtain ⟨hsource, htarget⟩ := Prod.mk.inj hends
        refine Or.inr (Or.inr ⟨d, hd, ?_⟩)
        rw [hsource, htarget, hevidence]

end Report

section Answer

variable {m : Machine} {disk : Disk} {toolchain : Toolchain} {folder : String} {r : Request}
  {limit : Int} {failOnCycle : Bool} {g : Graph}

/-- A request for cycles whose workspace can be scanned hands out the cycles of its graph. -/
theorem answer_of_scans (hcommand : r.command = .cycles limit failOnCycle)
    (h : Scans m disk toolchain folder r g) :
    answer m disk toolchain folder r =
      deliver m disk folder (.cycles limit failOnCycle) (.cycles g limit) := by
  obtain ⟨location, settings, warnings, hworkspace, hsettings, hscan⟩ := h
  have hprepare : prepare m disk toolchain folder r = .ok (.cycles g limit) := by
    simp only [prepare, hworkspace, hsettings, hcommand, produce, hscan, bind, Except.bind,
      Except.mapError]
  rw [answer, hprepare, hcommand]

theorem deliver_cycles_of_le {command : Command} (hlimit : limit ≤ Graph.maxLimit) :
    deliver m disk folder command (.cycles g limit) =
      .ok (cyclesAnswer disk command ((g.cycles (some limit)).map (cycleSteps g))) := by
  rw [deliver, Graph.findCycles_of_le hlimit]

theorem deliver_cycles_of_lt {command : Command} (hlimit : Graph.maxLimit < limit) :
    deliver m disk folder command (.cycles g limit) = .error (.uncounted .tooLarge, disk) := by
  have hrefused : g.findCycles (some limit) = .error .tooLarge :=
    Graph.findCycles_eq_error_iff.2 ⟨limit, rfl, hlimit⟩
  rw [deliver, hrefused]

end Answer

/-! ## A workspace with a cycle -/

/-- A machine without home folders that shows whatever it is given. -/
def plainMachine : Machine where
  home? _ := none
  console := .ofReader fun _ => none
  stack := .endless
  note _ := ""

/-- A request to fail on cycles in the workspace, and to show some of them. -/
def loopRequest (limit : Int) : Request :=
  ⟨.absent, .value .manual, .absent, "/w", .cycles limit true⟩

private theorem exists_nodes_loop : ∃ nodes, loopTarget.nodes { mode := .manual } = .ok nodes ∧
    projectsOf nodes = sampleProjects :=
  Target.exists_nodes_of_table [⟨"app", "app"⟩, ⟨"lib", "lib"⟩] (by decide +kernel)
    (by decide +kernel) (by decide +kernel) (by decide +kernel) (by decide)

/-- The workspace can be scanned, and in its graph the program depends on itself in the end. -/
private theorem exists_scans_loop (limit : Int) : ∃ g,
    Scans plainMachine loopTarget.disk loopTarget.toolchain "/" (loopRequest limit) g ∧
      Relation.TransGen g.DependsOn "app" "app" := by
  obtain ⟨nodes, built, hprojects⟩ := exists_nodes_loop
  obtain ⟨warnings, hfound⟩ := loopTarget.dependencies_eq_blocks { mode := .manual }
    (Graph.keyedByName_projectsOf nodes) none
  have hlisted := (Graph.ofResults_dependenciesOf (some "/w") nodes
    (loopTarget.site (projectsOf nodes)) rfl (.lexical ({ mode := .manual } : Settings).scope) none
    rfl).2
  have hworkspace : findWorkspace plainMachine loopTarget.disk "/" "/w" = .ok "/w" := rfl
  have hsettings : findSettings plainMachine loopTarget.disk "/" "/w" (loopRequest limit) =
      .ok { mode := .manual } := rfl
  refine ⟨_, ⟨"/w", { mode := .manual }, _, hworkspace, hsettings, Graph.scan_eq_ok built hfound⟩,
    ?_⟩
  have hstep : ∀ p ∈ (projectsOf nodes).values, ∀ target,
      (∃ r ∈ (loopTarget.site (projectsOf nodes)).references
          (.lexical ({ mode := .manual } : Settings).scope) p,
        (loopTarget.site (projectsOf nodes)).LeadsTo p r target) →
      (Graph.ofResults (some "/w") nodes ((visited (projectsOf nodes) none).flatMap
        ((loopTarget.site (projectsOf nodes)).dependenciesOf
          (.lexical ({ mode := .manual } : Settings).scope)))).DependsOn p.name target := by
    intro p hp target hleads
    obtain ⟨d, hd, rfl⟩ := Site.target_mem_dependenciesOf_iff.2 hleads
    have hmem := hlisted.symm ▸ List.mem_flatMap.2 ⟨p, hp, hd⟩
    refine List.mem_map.2 ⟨d, (Graph.mem_dependencies_iff.1 hmem).1, ?_⟩
    rw [Dependency.ends, Site.source_of_mem_dependenciesOf hd]
  have happ := hstep ⟨"app", "app"⟩ (by rw [hprojects]; decide) "lib"
    (by rw [hprojects]; exact app_leadsTo_lib)
  have hlib := hstep ⟨"lib", "lib"⟩ (by rw [hprojects]; decide) "app"
    (by rw [hprojects]; exact lib_leadsTo_app)
  exact (Relation.TransGen.single happ).tail hlib

/-- Whatever nodes and dependencies a graph was made of, in whatever order: the search finds its
    elementary cycles, each once, all of them or as many as a positive limit allows. Only a limit
    that is too large to be counted to is refused. A request for the cycles of a workspace that can
    be scanned is answered unless its limit is refused, and then it has no answer. It fails exactly
    if it is to fail on cycles and some project depends on itself in the end, whatever the limit,
    and shows every step of a cycle with the file that was recorded for it. -/
theorem cycles_enumerated_and_reported (location : Option String) (changes : List Graph.Change)
    (wanted : Option Int) (m : Machine) (disk : Disk) (toolchain : Toolchain) (folder : String)
    (r : Request) :
    ((∀ found, (Graph.after location changes).findCycles wanted = .ok found →
        (Graph.after location changes).IsEnumeration wanted found) ∧
      ∀ fault, (Graph.after location changes).findCycles wanted = .error fault ↔
        ∃ n ∈ wanted, Graph.maxLimit < n) ∧
    ∀ (limit : Int) (failOnCycle : Bool) (g : Graph), r.command = .cycles limit failOnCycle →
      Scans m disk toolchain folder r g →
        (∀ a, answer m disk toolchain folder r = .ok a → ReportsCycles g limit failOnCycle a) ∧
        ∀ x, answer m disk toolchain folder r = .error x ↔
          Graph.maxLimit < limit ∧ x = (.uncounted .tooLarge, disk) := by
  refine ⟨⟨fun found hfound => ?_, fun fault => Graph.findCycles_eq_error_iff⟩, ?_⟩
  · obtain ⟨-, rfl⟩ := Graph.findCycles_eq_ok_iff.1 hfound
    exact Graph.isEnumeration_cycles (Graph.coherent_after location changes) wanted
  · intro limit failOnCycle g hcommand hscans
    rw [answer_of_scans hcommand hscans]
    rcases lt_or_ge Graph.maxLimit limit with hlimit | hlimit
    · rw [deliver_cycles_of_lt hlimit]
      refine ⟨nofun, fun x => ?_⟩
      rw [Except.error.injEq, eq_comm]
      exact (and_iff_right hlimit).symm
    · rw [deliver_cycles_of_le hlimit]
      refine ⟨?_, fun x => iff_of_false nofun fun h => Int.not_lt.2 hlimit h.1⟩
      rintro _ ⟨⟩
      exact reportsCycles_cyclesAnswer hscans.coherent disk failOnCycle

/-- In the workspace of the program and the library, a cycle is shown and the request fails. -/
theorem cycles_enumerated_and_reported_loop :
    (loopRequest 1).command = .cycles 1 true ∧
      ∃ g, Scans plainMachine loopTarget.disk loopTarget.toolchain "/" (loopRequest 1) g ∧
        ∃ a, answer plainMachine loopTarget.disk loopTarget.toolchain "/" (loopRequest 1) = .ok a ∧
          a.exit = 1 ∧ ∃ steps rest, a.shown = .cycles (steps :: rest) := by
  obtain ⟨g, hscans, hloop⟩ := exists_scans_loop 1
  obtain ⟨hreported, hrefused⟩ := (cycles_enumerated_and_reported none [] none plainMachine
    loopTarget.disk loopTarget.toolchain "/" (loopRequest 1)).2 1 true g rfl hscans
  cases hanswer : answer plainMachine loopTarget.disk loopTarget.toolchain "/" (loopRequest 1) with
  | error x => exact absurd ((hrefused x).1 hanswer).1 (by decide)
  | ok a =>
    have hreports := hreported a hanswer
    refine ⟨rfl, g, hscans, a, rfl, hreports.exit_eq_one_iff.2 ⟨rfl, _, hloop⟩, ?_⟩
    obtain ⟨found, hshown, henumeration, -, -⟩ := hreports.shown
    -- where there is a cycle, some cycle is shown
    have hne : found.map (fun steps => steps.map CycleStep.source) ≠ [] :=
      henumeration.ne_nil_iff.2 (Graph.exists_isElementary_iff.2 ⟨_, hloop⟩)
    cases found with
    | nil => exact absurd rfl hne
    | cons steps rest => exact ⟨steps, rest, hshown⟩

private theorem request_loopRequest_large :
    request .value ["--compiler", "manual", "cycles", "/w", "--limit", "9223372036854775808",
      "--fail-on-cycle"] = .ok (some (loopRequest 9223372036854775808)) := by
  with_unfolding_all rfl

/-- With the smallest limit that is refused, the same workspace can be scanned and has a cycle, but
    the request has no answer. -/
theorem cycles_not_reported_up_to_large_limit :
    request .value ["--compiler", "manual", "cycles", "/w", "--limit", "9223372036854775808",
        "--fail-on-cycle"] = .ok (some (loopRequest 9223372036854775808)) ∧
      (∃ g, Scans plainMachine loopTarget.disk loopTarget.toolchain "/"
          (loopRequest 9223372036854775808) g ∧ Relation.TransGen g.DependsOn "app" "app") ∧
      answer plainMachine loopTarget.disk loopTarget.toolchain "/"
        (loopRequest 9223372036854775808) = .error (.uncounted .tooLarge, loopTarget.disk) := by
  obtain ⟨g, hscans, hloop⟩ := exists_scans_loop 9223372036854775808
  refine ⟨request_loopRequest_large, ⟨g, hscans, hloop⟩, ?_⟩
  exact (answer_of_scans rfl hscans).trans (deliver_cycles_of_lt (by decide))

end MakeAtlas.CommandLine
