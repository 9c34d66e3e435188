import MakeAtlas.Proofs.DistinctBlocks
import MakeAtlas.Proofs.Path.StraightPaths
import MakeAtlas.Proofs.Workers
import MakeAtlas.Proofs.Workspace.ProjectFolder
import MakeAtlas.Proofs.Workspace.Walking

/-!
# The headers that a compiler lists

A compiler is run for each source of a project, by some workers at a time. In whatever order the
runs end, each header is reported once, in the order of the first mentions, with the first source
that mentions it; a run that fails mentions nothing. A run does not report its own source, as long
as its path goes straight.

## Key results

- `merged_headers`: the headers of all runs, merged, are the references of the project
- `reportsHeaders_references`: which headers are reported, in which order and with which evidence
- `references_of_failing`: what is left where some runs fail
- `relativeTo?_absolute_headerPath`: straight paths to one place are one header
- `headerPath_eq_source_iff`: which paths to a source are not told from a header
- `scan_by_workers`: all of it, for the project in a folder
- `own_source_reported`: a source that its own run reports
-/

namespace MakeAtlas.Evidence

open MakeAtlas.Workers (IsDone Reaches results start)

namespace Listing

variable (l : Listing) (toolchain : Toolchain)

/-! ## Runs -/

/-- What comes of the run for a source. -/
def reply (source : String) : Reply :=
  toolchain.list l.folder (l.command source)

/-- The headers that the run for a source lists. -/
def headers (source : String) : List String :=
  listedHeaders l.folder source (l.reply toolchain source)

/-- The run for a source succeeds and names a path. -/
def Names (source path : String) : Prop :=
  ∃ text, (l.reply toolchain source).output? = some text ∧
    path ∈ Source.Depfile.paths (String.ofList text)

/-- The run for a source succeeds and mentions a header other than the source: it names a path whose
normal form, seen from the folder, is the header. -/
def Mentions (source header : String) : Prop :=
  (∃ path, l.Names toolchain source path ∧ headerPath l.folder path = header) ∧
    header ≠ Path.normalize source

/-- The headers of all runs merged, source by source in the order of the walk. -/
def merged (root : String) (found : List (List String)) : List Reference :=
  Reference.first <| (l.sources.zip found).flatMap fun (source, headers) =>
    headers.map fun header => ⟨header, Path.underRoot root source, none⟩

variable {l toolchain}

theorem mem_headers_iff {source header : String} :
    header ∈ l.headers toolchain source ↔ l.Mentions toolchain source header := by
  unfold headers listedHeaders Mentions Names
  cases (l.reply toolchain source).output? with
  | none => simp
  | some text => simp

theorem sourceReferences_eq (root source : String) :
    l.sourceReferences toolchain root source =
      (l.headers toolchain source).map fun header =>
        ⟨header, Path.underRoot root source, none⟩ :=
  rfl

/-- The headers of all runs, merged, are the references of the project. -/
theorem merged_headers (root : String) :
    l.merged root (l.sources.map (l.headers toolchain)) = l.references toolchain root := by
  have hzip : l.sources.zip (l.sources.map (l.headers toolchain)) =
      l.sources.map fun source => (source, l.headers toolchain source) := by
    have hmap := List.zip_map' (f := id) (g := l.headers toolchain) (l := l.sources)
    rwa [List.map_id] at hmap
  rw [merged, hzip, List.flatMap_map]
  rfl

/-! ## What is reported -/

/-- References report the headers that the runs of a listing mention. -/
structure ReportsHeaders (l : Listing) (toolchain : Toolchain) (root : String)
    (found : List Reference) : Prop where
  /-- The headers that some run mentions are reported, -/
  mem_iff : ∀ header, header ∈ found.map Reference.path ↔
    ∃ source ∈ l.sources, l.Mentions toolchain source header
  /-- each one once, -/
  once : (found.map Reference.path).Nodup
  /-- in the order in which they are first mentioned, -/
  inOrder : (found.map Reference.path).Pairwise fun header header' => ∃ before after,
    l.sources.flatMap (l.headers toolchain) = before ++ header :: after ∧
      header' ∉ before ++ [header]
  /-- with the first source that mentions them, and without a line. -/
  evidence : ∀ r ∈ found, r.line = none ∧ ∃ before source after,
    l.sources = before ++ source :: after ∧ r.file = Path.underRoot root source ∧
      l.Mentions toolchain source r.path ∧
      ∀ earlier ∈ before, ¬ l.Mentions toolchain earlier r.path

private theorem map_path_sourceReferences (root : String) (sources : List String) :
    (sources.flatMap (l.sourceReferences toolchain root)).map Reference.path =
      sources.flatMap (l.headers toolchain) := by
  rw [List.map_flatMap]
  congr 1
  funext source
  rw [sourceReferences_eq, List.map_map]
  exact List.map_id _

/-- The references of a project report what the runs of the compiler mention. -/
theorem reportsHeaders_references (l : Listing) (toolchain : Toolchain) (root : String) :
    ReportsHeaders l toolchain root (l.references toolchain root) where
  mem_iff header := by
    have hfirst : header ∈ (l.references toolchain root).map Reference.path ↔
        header ∈ (l.sources.flatMap (l.sourceReferences toolchain root)).map Reference.path := by
      constructor
      · intro h
        obtain ⟨r, hr, rfl⟩ := List.mem_map.1 h
        exact List.mem_map_of_mem (mem_of_mem_distinctBy hr)
      · intro h
        obtain ⟨r, hr, rfl⟩ := List.mem_map.1 h
        exact key_mem_distinctBy hr
    rw [hfirst, map_path_sourceReferences, List.mem_flatMap]
    simp only [mem_headers_iff]
  once := nodup_map_distinctBy Reference.path _
  inOrder := by
    rw [List.pairwise_map]
    refine (pairwise_distinctBy Reference.path _).imp ?_
    rintro r r' ⟨before, after, hsplit, hnew⟩
    have hheaders := congrArg (List.map Reference.path) hsplit
    rw [map_path_sourceReferences, List.map_append, List.map_cons] at hheaders
    refine ⟨_, _, hheaders, fun hmem => ?_⟩
    have hearlier : r'.path ∈ (before ++ [r]).map Reference.path := by
      rwa [List.map_append, List.map_singleton]
    obtain ⟨z, hz, hpath⟩ := List.mem_map.1 hearlier
    exact hnew z hz hpath
  evidence r hr := by
    obtain ⟨before, source, after, hsources, hmem, hnew⟩ := mem_distinctBy_flatMap_iff.1 hr
    obtain ⟨header, hheader, rfl⟩ := List.mem_map.1 (mem_of_mem_distinctBy hmem)
    refine ⟨rfl, before, source, after, hsources, rfl, mem_headers_iff.1 hheader, ?_⟩
    intro earlier hearlier hmentions
    exact hnew earlier hearlier _
      (List.mem_map_of_mem (mem_headers_iff.2 hmentions)) rfl

/-! ## Runs that fail -/

/-- Where some runs fail, what is left are the first mentions in the other runs. -/
theorem references_of_failing {failing : Toolchain} (root : String)
    (h : ∀ source ∈ l.sources, l.reply failing source = l.reply toolchain source ∨
      (l.reply failing source).output? = none) :
    l.references failing root = Reference.first
      ((l.sources.filter fun source => (l.reply failing source).output?.isSome).flatMap
        (l.sourceReferences toolchain root)) := by
  rw [references]
  generalize l.sources = sources at h
  congr 1
  induction sources with
  | nil => rfl
  | cons source sources ih =>
    rw [List.forall_mem_cons] at h
    rw [List.flatMap_cons, ih h.2]
    cases hreply : (l.reply failing source).output? with
    | none =>
      have hnothing : l.headers failing source = [] := by
        rw [headers, listedHeaders, hreply]
      rw [List.filter_cons_of_neg (by simp [hreply]), sourceReferences_eq, hnothing]
      rfl
    | some text =>
      have hsame : l.headers failing source = l.headers toolchain source := by
        rw [headers, headers, h.1.resolve_right (by simp [hreply])]
      rw [List.filter_cons_of_pos (by simp [hreply]), List.flatMap_cons, sourceReferences_eq,
        sourceReferences_eq, hsame]

/-! ## Paths to one place -/

/-- A path that goes straight is the header that the way to its place is. -/
theorem relativeTo?_absolute_headerPath {path : String} (hslash : '\\' ∉ path.toList)
    (h : Path.goesUp path = false) (folder : String) :
    Path.relativeTo? (Path.absolute folder path) folder = some (headerPath folder path) := by
  cases hanchored : Path.isAnchored path.toList with
  | true =>
    rw [Path.relativeTo?_absolute_of_isAnchored hanchored, headerPath, if_pos hanchored]
    have hne : path.isEmpty = false := by
      rw [← Bool.not_eq_true, String.isEmpty_iff]
      rintro rfl
      cases hanchored
    unfold Path.relativeTo?
    rw [hne, if_neg Bool.false_ne_true]
    dsimp only
    split <;> rfl
  | false =>
    rw [Path.relativeTo?_absolute_of_straight hslash hanchored h, headerPath,
      if_neg (by simp [hanchored])]

/-- A path to the place of a source that lies below the folder is told from a header exactly if it
goes straight. -/
theorem headerPath_eq_source_iff {folder path source : String} (hpath : '\\' ∉ path.toList)
    (hsource : '\\' ∉ source.toList) (relative : Path.isAnchored source.toList = false)
    (below : Path.goesUp source = false)
    (same : Path.absolute folder path = Path.absolute folder source) :
    headerPath folder path = Path.normalize source ↔ Path.goesUp path = false := by
  have hown : headerPath folder source = Path.normalize source := by
    rw [headerPath, if_neg (by simp [relative])]
  constructor
  · intro h
    cases hanchored : Path.isAnchored path.toList with
    | true => exact Path.goesUp_of_isAnchored hanchored
    | false =>
      rw [headerPath, if_neg (by simp [hanchored])] at h
      rw [Path.goesUp_eq_of_normalize_eq hpath hsource h, below]
  · intro h
    have hway := relativeTo?_absolute_headerPath hpath h folder
    rw [same, relativeTo?_absolute_headerPath hsource below folder, Option.some.injEq] at hway
    rw [← hway, hown]

/-- Of the paths to its own source, a run reports those that do not go straight. -/
theorem headerPath_mem_headers_iff {names : List String}
    (hnames : ∀ n ∈ names, Path.isName n = true) {path : String} (hpath : '\\' ∉ path.toList)
    (named : l.Names toolchain (Path.joined names) path)
    (same : Path.absolute l.folder path = Path.absolute l.folder (Path.joined names)) :
    headerPath l.folder path ∈ l.headers toolchain (Path.joined names) ↔
      Path.goesUp path = true := by
  have hsource := Path.not_mem_forward (Path.joined names).toList
  rw [Path.forward_joined hnames] at hsource
  rw [mem_headers_iff, Mentions, and_iff_right ⟨path, named, rfl⟩, Ne,
    headerPath_eq_source_iff hpath hsource (Path.isAnchored_joined hnames)
      (Path.goesUp_joined hnames) same, Bool.not_eq_false]

end Listing

/-! ## The scan of a project -/

/-- The sources of the project in a folder, in the order of the walk. -/
def walkedSources (disk : Disk) (scope : ScanScope) (folder : String) :
    List Workspace.FoundFile :=
  filesOf scope sourceExtensions (if Disk.CanBeUsed folder then disk.childrenAt folder else [])

namespace Listing

/-- A listing can be made of every folder whose path has no NUL. -/
theorem exists_ofFolder_eq_ok {folder : String} (h : '\x00' ∉ folder.toList) (disk : Disk)
    (scope : ScanScope) (compiler : String) :
    ∃ flags, ofFolder disk scope compiler folder = .ok ⟨compiler, flags, folder,
      (walkedSources disk scope folder).map fun f => Path.toForward f.path⟩ := by
  have hmakefile : '\x00' ∉ (Disk.pathIn folder Workspace.makefileName).toList := by
    rw [Disk.pathIn, String.toList_ofList, Path.append, if_neg (by decide)]
    split <;> simp [h, Workspace.makefileName]
  have hchildren : disk.entriesOf folder =
      .ok (if Disk.CanBeUsed folder then disk.childrenAt folder else []) :=
    Disk.entriesOf_eq_ok_iff.2 ⟨h, rfl⟩
  unfold ofFolder Disk.readMakefile
  simp only [Disk.readText_eq_ok hmakefile, hchildren, bind, Except.bind]
  exact ⟨_, rfl⟩

/-- What a scan of the sources in a folder finds, by workers that run a compiler. -/
structure ScannedByWorkers (l : Listing) (walked : List Workspace.FoundFile)
    (toolchain : Toolchain) (root : String) (found : List Reference) : Prop where
  /-- The headers that the runs mention are reported. -/
  reports : ReportsHeaders l toolchain root found
  /-- The order in which the runs end changes nothing, -/
  anyOrder : ∀ workers places, Reaches workers (l.headers toolchain) (start l.sources) places →
    IsDone places → l.merged root (results places) = found
  /-- and however far the workers have come, they can finish. -/
  finishes : ∀ workers, 0 < workers → ∀ places : List (Workers.Place String (List String)),
    ∃ last, Reaches workers (l.headers toolchain) places last ∧ IsDone last
  /-- If some runs fail, their mentions are missing, and nothing else is different. -/
  failing : ∀ failing : Toolchain,
    (∀ source ∈ l.sources, l.reply failing source = l.reply toolchain source ∨
      (l.reply failing source).output? = none) →
    l.references failing root = Reference.first
      ((l.sources.filter fun source => (l.reply failing source).output?.isSome).flatMap
        (l.sourceReferences toolchain root))
  /-- Paths to one place are one header, if they go straight. -/
  alike : ∀ path other, '\\' ∉ path.toList → '\\' ∉ other.toList →
    Path.goesUp path = false → Path.goesUp other = false →
    Path.absolute l.folder path = Path.absolute l.folder other →
    headerPath l.folder path = headerPath l.folder other
  /-- Of the paths to its own source, a run reports those that do not go straight. -/
  ownSource : ∀ f ∈ walked, (∀ n ∈ f.steps, Path.isName n = true) → ∀ path,
    '\\' ∉ path.toList → l.Names toolchain f.path path →
    Path.absolute l.folder path = Path.absolute l.folder f.path →
    (headerPath l.folder path ∈ l.headers toolchain f.path ↔ Path.goesUp path = true)

/-- A compiler scans the project in a folder. -/
theorem scan_by_workers {folder : String} (h : '\x00' ∉ folder.toList) (disk : Disk)
    (scope : ScanScope) (compiler root : String) :
    ∃ l : Listing, ofFolder disk scope compiler folder = .ok l ∧ l.folder = folder ∧
      l.sources = (walkedSources disk scope folder).map (fun f => Path.toForward f.path) ∧
      ∀ toolchain, ∃ found,
        (IncludeScanner.compiler scope compiler).scan disk toolchain folder root = .ok found ∧
          l.ScannedByWorkers (walkedSources disk scope folder) toolchain root found := by
  obtain ⟨flags, hl⟩ := exists_ofFolder_eq_ok h disk scope compiler
  refine ⟨_, hl, rfl, rfl, fun toolchain => ⟨_, by rw [IncludeScanner.scan, hl]; rfl, ?_⟩⟩
  exact {
    reports := reportsHeaders_references _ toolchain root
    anyOrder := fun workers places hreaches hdone => by
      rw [Workers.results_of_reaches hreaches hdone, merged_headers]
    finishes := fun workers hworkers places =>
      Workers.exists_reaches_isDone hworkers _ places
    failing := fun failing hfailing => references_of_failing root hfailing
    alike := fun path other hpath hother hup hup' hsame => by
      have hway := relativeTo?_absolute_headerPath hpath hup folder
      rwa [hsame, relativeTo?_absolute_headerPath hother hup' folder, Option.some.injEq,
        eq_comm] at hway
    ownSource := fun f _ hnames path hpath hnamed hsame =>
      headerPath_mem_headers_iff hnames hpath hnamed hsame }

/-- A workspace with a project of two sources. -/
def twoSources : Disk where
  root := [("ws", .folder [("app", .folder [
    ("Makefile", .file (Text.Utf8.encode "all:\n")), ("a.c", .file []), ("b.c", .file [])])])]

/-- A compiler that finds a header in both sources, and one more in the second. -/
def sharing : Toolchain where
  isInstalled _ := true
  version _ := .finished 0 [] []
  list _ command :=
    match command.getLast? with
    | some "a.c" => .finished 0 (Text.Utf8.encode "dummy: a.c ../lib/x.h\n") []
    | some "b.c" => .finished 0 (Text.Utf8.encode "dummy: b.c ../gen/y.h ../lib/x.h\n") []
    | _ => .missing

/-- The same compiler, where it takes too long for the first source. -/
def sharingTooLate : Toolchain where
  isInstalled _ := true
  version _ := .finished 0 [] []
  list folder command :=
    if command.getLast? = some "a.c" then .timeout else sharing.list folder command

private theorem walkedSources_twoSources :
    walkedSources twoSources ⟨[], none⟩ "/ws/app" = [⟨["a.c"], []⟩, ⟨["b.c"], []⟩] := by
  let children : List (String × Entry) :=
    [("Makefile", .file (Text.Utf8.encode "all:\n")), ("a.c", .file []), ("b.c", .file [])]
  have hchildren : (if Disk.CanBeUsed "/ws/app" then twoSources.childrenAt "/ws/app" else []) =
      children := by
    rw [if_pos (by decide)]
    rfl
  have hsorted : Entry.sorted children = children := by
    simp [children, Entry.sorted, List.mergeSort]
  have hfiles : Workspace.WalkRules.files ⟨sourceExtensions, []⟩ ⟨[], children⟩ =
      [⟨["a.c"], []⟩, ⟨["b.c"], []⟩] := by
    rw [Workspace.WalkRules.files, hsorted]
    decide +kernel
  have hsubfolders : Workspace.WalkRules.subfolders ⟨sourceExtensions, []⟩ ⟨[], children⟩ = [] := by
    rw [Workspace.WalkRules.subfolders, hsorted]
    rfl
  rw [walkedSources, hchildren]
  show Workspace.WalkRules.walkFrom ⟨sourceExtensions, []⟩ none [⟨[], children⟩] = _
  rw [Workspace.WalkRules.walkFrom, hfiles, hsubfolders, List.nil_append,
    Workspace.WalkRules.walkFrom, List.append_nil]

private theorem getLast?_command (l : Listing) (source : String) :
    (l.command source).getLast? = some source :=
  List.getLast?_concat

/-- What the compiler lists for the sources of the project. -/
private theorem headers_sharing {l : Listing} (h : l.folder = "/ws/app") :
    l.headers sharing "a.c" = ["../lib/x.h"] ∧
      l.headers sharing "b.c" = ["../gen/y.h", "../lib/x.h"] := by
  unfold headers reply sharing
  simp only [getLast?_command, h]
  decide +kernel

private theorem reply_sharingTooLate (l : Listing) (source : String) :
    l.reply sharingTooLate source =
      if source = "a.c" then .timeout else l.reply sharing source := by
  unfold reply sharingTooLate
  simp only [getLast?_command, Option.some.injEq]

/-- Of the runs that may be too late, the second one succeeds. -/
private theorem filter_sharingTooLate (l : Listing) :
    ["a.c", "b.c"].filter (fun source => (l.reply sharingTooLate source).output?.isSome) =
      ["b.c"] := by
  have hsecond : (l.reply sharing "b.c").output?.isSome = true := by
    unfold reply sharing
    simp only [getLast?_command]
    decide +kernel
  have hlate : (l.reply sharingTooLate "a.c").output?.isSome = false := by
    rw [reply_sharingTooLate, if_pos rfl]
    rfl
  have hdone : (l.reply sharingTooLate "b.c").output?.isSome = true := by
    rw [reply_sharingTooLate, if_neg (by decide), hsecond]
  simp [hlate, hdone]

/-- The second run may end while the first goes on. -/
private theorem reaches_twoSources {run : String → List String} :
    Reaches 2 run (start ["a.c", "b.c"]) [.running "a.c", .finished (run "b.c")] := by
  have hfirst : Workers.Step 2 run (start ["a.c", "b.c"]) [.running "a.c", .waiting "b.c"] :=
    @Workers.Step.begin _ _ 2 run [] _ _ nofun (by decide)
  have hsecond : Workers.Step 2 run [.running "a.c", .waiting "b.c"]
      [.running "a.c", .running "b.c"] :=
    @Workers.Step.begin _ _ 2 run [.running "a.c"] [] _ (by simp [Workers.Place.isWaiting])
      (by decide)
  exact .head hfirst (.head hsecond (.single (@Workers.Step.finish _ _ 2 run [.running "a.c"] [] _)))

/-- The shared header is reported once and with the first source that mentions it, even where the
second run ends first. If the first run takes too long, the second source is the evidence. -/
theorem scan_by_workers_twoSources : '\x00' ∉ "/ws/app".toList ∧
    ∃ l : Listing, ofFolder twoSources ⟨[], none⟩ "gcc" "/ws/app" = .ok l ∧ ∃ found,
      (IncludeScanner.compiler ⟨[], none⟩ "gcc").scan twoSources sharing "/ws/app" "app" =
        .ok found ∧
      l.ScannedByWorkers (walkedSources twoSources ⟨[], none⟩ "/ws/app") sharing "app" found ∧
      found = [⟨"../lib/x.h", "app/a.c", none⟩, ⟨"../gen/y.h", "app/b.c", none⟩] ∧
      (∃ places, Reaches 2 (l.headers sharing) (start l.sources)
          [.running "a.c", .finished (l.headers sharing "b.c")] ∧
        Reaches 2 (l.headers sharing) [.running "a.c", .finished (l.headers sharing "b.c")] places ∧
        IsDone places ∧ l.merged "app" (results places) = found) ∧
      l.references sharingTooLate "app" =
        [⟨"../gen/y.h", "app/b.c", none⟩, ⟨"../lib/x.h", "app/b.c", none⟩] := by
  have hnul : '\x00' ∉ "/ws/app".toList := by decide
  obtain ⟨l, hl, hfolder, hsources, hscan⟩ := scan_by_workers hnul twoSources ⟨[], none⟩ "gcc" "app"
  rw [walkedSources_twoSources] at hsources
  replace hsources : l.sources = ["a.c", "b.c"] := hsources.trans (by decide +kernel)
  obtain ⟨found, hfound, hworkers⟩ := hscan sharing
  have hheaders := headers_sharing hfolder
  have hreferences : l.references sharing "app" =
      [⟨"../lib/x.h", "app/a.c", none⟩, ⟨"../gen/y.h", "app/b.c", none⟩] := by
    simp only [references, hsources, List.flatMap_cons, List.flatMap_nil, sourceReferences_eq,
      hheaders]
    decide +kernel
  have hlisted : found = l.references sharing "app" := by
    have hresult := hfound
    rw [IncludeScanner.scan, hl] at hresult
    exact (Except.ok.inj hresult).symm
  refine ⟨hnul, l, hl, found, hfound, hworkers, hlisted.trans hreferences, ?_, ?_⟩
  · obtain ⟨last, hlast, hdone⟩ := hworkers.finishes 2 (by decide)
      [.running "a.c", .finished (l.headers sharing "b.c")]
    have hreaches : Reaches 2 (l.headers sharing) (start l.sources)
        [.running "a.c", .finished (l.headers sharing "b.c")] := by
      rw [hsources]
      exact reaches_twoSources
    exact ⟨last, hreaches, hlast, hdone, hworkers.anyOrder 2 last (hreaches.trans hlast) hdone⟩
  · have hfailing : ∀ source ∈ l.sources,
        l.reply sharingTooLate source = l.reply sharing source ∨
          (l.reply sharingTooLate source).output? = none := by
      intro source _
      rw [reply_sharingTooLate]
      split
      · exact Or.inr rfl
      · exact Or.inl rfl
    rw [hworkers.failing sharingTooLate hfailing, hsources, filter_sharingTooLate,
      List.flatMap_singleton, sourceReferences_eq, hheaders.2]
    decide +kernel

/-- A workspace with a project of one source. -/
def oneSource : Disk where
  root := [("ws", .folder [("app", .folder [
    ("Makefile", .file (Text.Utf8.encode "all:\n")), ("main.c", .file [])])])]

/-- A compiler that names the source by a path that goes up and comes back. -/
def comingBack : Toolchain where
  isInstalled _ := true
  version _ := .finished 0 [] []
  list _ _ := .finished 0 (Text.Utf8.encode "dummy: ../app/main.c\n") []

private theorem mem_walkedSources_oneSource :
    ⟨["main.c"], []⟩ ∈ walkedSources oneSource ⟨[], none⟩ "/ws/app" := by
  have hchildren : (if Disk.CanBeUsed "/ws/app" then oneSource.childrenAt "/ws/app" else []) =
      [("Makefile", .file (Text.Utf8.encode "all:\n")), ("main.c", .file [])] := by
    rw [if_pos (by decide)]
    rfl
  rw [walkedSources, hchildren]
  refine (Workspace.mem_walk_iff (by decide +kernel)).2 ?_
  exact Workspace.reaches_folder_iff.2 (Or.inl ⟨"main.c", rfl, rfl, by decide⟩)

/-- Not every run leaves out its own source: the path that comes back is reported. -/
theorem own_source_reported :
    ¬ ∀ (disk : Disk) (scope : ScanScope) (compiler folder : String) (l : Listing),
      ofFolder disk scope compiler folder = .ok l → ∀ toolchain, ∀ source ∈ l.sources,
        ∀ header ∈ l.headers toolchain source,
          Path.absolute folder header ≠ Path.absolute folder source := by
  intro hall
  have hnul : '\x00' ∉ "/ws/app".toList := by decide
  obtain ⟨flags, hl⟩ := exists_ofFolder_eq_ok hnul oneSource ⟨[], none⟩ "gcc"
  refine hall _ _ _ _ _ hl comingBack "main.c" ?_ "../app/main.c" ?_ (by decide +kernel)
  · exact List.mem_map.2 ⟨_, mem_walkedSources_oneSource, by decide +kernel⟩
  · show "../app/main.c" ∈ listedHeaders "/ws/app" "main.c"
      (.finished 0 (Text.Utf8.encode "dummy: ../app/main.c\n") [])
    decide +kernel

end Listing

end MakeAtlas.Evidence
