import MakeAtlas.Proofs.Inference.NamedProjects
import MakeAtlas.Proofs.Workspace.PosixTree

/-!
# Makefiles under the paths that are reported for them

A Makefile is reported with slashes in place of the backslashes in its names, and it is this path
that the project's node is made from. Where the names hold no backslash, the path leads back to the
Makefile, and the node is made of its text. Where one does, the path leads elsewhere: two Makefiles
may be reported under one path, and where nothing is at that path the project has no tasks.

## Key results

- `placeOf_reported_eq_iff`: when a reported path leads to the names it is reported for
- `mem_makefilesIn_iff_isMakefile`: which paths are reported
- `nodup_makefilesIn_iff`: when no path is reported twice
- `nodeOf_reported`: the nodes that are made of them
- `makefiles_lead_back`: all of it, for the workspace at a path
- `backslash_leads_elsewhere`: a Makefile whose path leads nowhere, and two under one path
-/

namespace MakeAtlas

open MakeAtlas.Path (isPosixName joined)
open MakeAtlas.Workspace (makefileName isFound ignoresFor makefilesIn reported)

/-! ## Paths that lead back -/

namespace Disk

variable {location : String} {names : List String}

/-- The path that is reported for names leads to these names exactly if none of them holds a
    backslash. -/
theorem placeOf_reported_eq_iff (h : ∀ n ∈ names, isPosixName n = true) :
    placeOf (pathIn location (reported names)) = placeOf location ++ names ↔
      ∀ n ∈ names, '\\' ∉ n.toList := by
  constructor
  · intro hplace n hn hbackslash
    have hmem : n ∈ placeOf (pathIn location (reported names)) := by
      rw [hplace]
      exact List.mem_append_right _ hn
    -- either way, the name would be a step of a path with forward slashes
    have hsteps : n.toList ∈ Path.steps (Path.forward (joined names).toList) := by
      cases hanchored : Path.isAnchored (Path.forward (joined names).toList) with
      | true =>
        rw [placeOf_eq, pathIn, reported, Path.toForward, String.toList_ofList,
          String.toList_ofList, Path.append_of_isAnchored hanchored] at hmem
        obtain ⟨step, hstep, rfl⟩ := List.mem_map.1 hmem
        rwa [String.toList_ofList]
      | false =>
        rw [placeOf_eq, placeOf_eq, pathIn, reported, Path.toForward, String.toList_ofList,
          String.toList_ofList, Path.steps_append_path _ hanchored, List.map_append] at hplace
        rw [← List.append_cancel_left hplace] at hn
        obtain ⟨step, hstep, rfl⟩ := List.mem_map.1 hn
        rwa [String.toList_ofList]
    exact Path.not_mem_forward _ (Path.mem_of_mem_steps hsteps hbackslash)
  · intro hplain
    have hnames : ∀ n ∈ names, Path.isName n = true := fun n hn =>
      Path.isName_of_isPosixName (h n hn) (hplain n hn)
    have hid : (String.ofList ∘ String.toList) = id := funext fun _ => String.ofList_toList
    rw [placeOf_eq, placeOf_eq, pathIn, reported, Path.toForward_joined hnames,
      String.toList_ofList, Path.steps_append_path _ (Path.isAnchored_joined hnames),
      Path.steps_joined hnames, List.map_append, List.map_map, hid, List.map_id]

/-- A path that is already as short as it can be never goes back. -/
theorem up_not_mem_placeOf_of_absolute (h : Path.absolute "/" location = location) :
    ".." ∉ placeOf location := by
  rw [up_mem_placeOf_iff, ← h, Path.absolute, String.toList_ofList, Path.steps_cons_slash,
    Path.steps_joinSteps fun n hn => Path.isStep_of_mem_steps (Path.mem_of_mem_collapse hn)]
  exact Path.up_not_mem_collapse _

/-- The file to which names lead from the folder of a workspace is found under the path that is
    reported for it, if no name holds a backslash and the path is not too long. -/
theorem find_reported {disk : Disk} {children : List (String × Entry)}
    (shortest : Path.absolute "/" location = location)
    (found : disk.find "/" location = .ok (.folder children))
    (h : ∀ n ∈ names, isPosixName n = true) (plain : ∀ n ∈ names, '\\' ∉ n.toList)
    {entry : Entry} (hentry : (Entry.folder children).at? names = some entry)
    (used : CanBeUsed (pathIn location (reported names))) :
    disk.find "/" (pathIn location (reported names)) = .ok entry := by
  have hdown := up_not_mem_placeOf_of_absolute shortest
  obtain ⟨hshort, hat⟩ := (follow_eq_ok_iff hdown).1 (find_eq_ok_iff.1 found).2
  -- from the folder on it goes by the names
  have hnames : ∀ n ∈ names, n ≠ ".." ∧ n.utf8ByteSize ≤ maxNameBytes := by
    intro n hn
    refine ⟨?_, Path.length_le_of_isPosixName (h n hn)⟩
    intro hup
    exact Path.ne_up_of_isName (Path.isName_of_isPosixName (h n hn) (plain n hn)) (by rw [hup]; rfl)
  have hfile : follow [] (.folder disk.root) (placeOf location ++ names) = .ok entry := by
    rw [follow_eq_ok_iff]
    · refine ⟨List.forall_mem_append.2 ⟨hshort, fun n hn => (hnames n hn).2⟩, ?_⟩
      rw [Entry.at?_append, hat, Option.bind_some, hentry]
    · rw [List.mem_append, not_or]
      exact ⟨hdown, fun hup => (hnames _ hup).1 rfl⟩
  rw [find_eq_ok_iff, (placeOf_reported_eq_iff h).2 plain]
  exact ⟨used, hfile⟩

end Disk

/-! ## The list of reported paths -/

namespace Workspace

variable {children : List (String × Entry)} {ignores extra : List String}

/-- Names lead to a Makefile of a workspace: to a file of that name, and no pattern names it or a
    folder on the way. -/
structure IsMakefile (children : List (String × Entry)) (ignores names : List String) : Prop where
  isFile : ∃ content, (Entry.folder children).at? names = some (.file content)
  isFound : isFound ignores [] names = true

theorem isMakefile_iff (tree : (Entry.folder children).IsPosixTree) {names : List String} :
    IsMakefile children ignores names ↔
      names ∈ (Entry.folder children).filePaths.filter (isFound ignores []) := by
  rw [List.mem_filter, Entry.mem_filePaths_iff tree.wellNamed]
  exact ⟨fun h => ⟨h.isFile, h.isFound⟩, fun h => ⟨h.1, h.2⟩⟩

theorem IsMakefile.getLast?_eq {names : List String} (h : IsMakefile children ignores names) :
    names.getLast? = some makefileName := by
  have hfound := h.isFound
  rw [Workspace.isFound, Bool.and_eq_true, beq_iff_eq] at hfound
  exact hfound.1

theorem IsMakefile.isPosixName {names : List String} (h : IsMakefile children ignores names)
    (tree : (Entry.folder children).IsPosixTree) : ∀ n ∈ names, isPosixName n = true := by
  obtain ⟨content, hfile⟩ := h.isFile
  exact tree.named names _ hfile

/-- Without backslashes, the path of a Makefile is in normal form already. -/
theorem IsMakefile.normalize_reported {names : List String}
    (h : IsMakefile children ignores names) (tree : (Entry.folder children).IsPosixTree)
    (plain : ∀ n ∈ names, '\\' ∉ n.toList) : Path.normalize (reported names) = reported names := by
  have hall : ∀ n ∈ names, Path.isName n = true := fun n hn =>
    Path.isName_of_isPosixName (h.isPosixName tree n hn) (plain n hn)
  have hne : names ≠ [] := List.ne_nil_of_mem (List.mem_of_getLast? h.getLast?_eq)
  rw [reported, Path.toForward_joined hall, Path.normalize_joined hall, Path.rootText_of_ne_nil hne]

/-- The paths that are reported are those of the Makefiles of the workspace. -/
theorem mem_makefilesIn_iff_isMakefile (tree : (Entry.folder children).IsPosixTree)
    {path : String} :
    path ∈ makefilesIn children extra ↔
      ∃ names, IsMakefile children (ignoresFor children extra) names ∧ path = reported names := by
  rw [(makefilesIn_perm_filePaths tree extra).mem_iff, List.mem_map]
  simp only [isMakefile_iff tree, eq_comm]

/-- No path is reported twice exactly if no two Makefiles are reported under one path. -/
theorem nodup_makefilesIn_iff (tree : (Entry.folder children).IsPosixTree) :
    (makefilesIn children extra).Nodup ↔
      ∀ names, IsMakefile children (ignoresFor children extra) names →
        ∀ names', IsMakefile children (ignoresFor children extra) names' →
          reported names = reported names' → names = names' := by
  have hfiles := (Entry.nodup_filePaths tree.wellNamed).filter
    (isFound (ignoresFor children extra) [])
  rw [(makefilesIn_perm_filePaths tree extra).nodup_iff, List.nodup_map_iff_inj_on hfiles]
  simp only [isMakefile_iff tree]

/-- No reported path holds a NUL. -/
theorem not_nul_of_reported {names : List String} (h : ∀ n ∈ names, isPosixName n = true) :
    '\x00' ∉ (Path.normalize (reported names)).toList := by
  have hforward : ∀ cs : List Char, '\x00' ∈ Path.forward cs → '\x00' ∈ cs := by
    intro cs hnul
    obtain ⟨c, hc, heq⟩ := List.mem_map.1 hnul
    split at heq
    · cases heq
    · rwa [← heq]
  intro hnul
  rw [Path.normalize, String.toList_ofList] at hnul
  rcases Path.mem_of_mem_normal hnul with hreported | hslash | hdot
  · have hjoined := hforward _ hreported
    rw [reported, Path.toForward, String.toList_ofList] at hjoined
    have hnames := hforward _ hjoined
    rw [Path.toList_joined] at hnames
    rcases Path.mem_of_mem_joinSteps hnames with hslash | ⟨step, hstep, hc⟩
    · cases hslash
    · obtain ⟨n, hn, rfl⟩ := List.mem_map.1 hstep
      exact Path.not_nul_of_isPosixName (h n hn) hc
  · cases hslash
  · cases hdot

end Workspace

/-! ## Their nodes -/

namespace Inference

/-- Without a NUL on the way, a Makefile has its node, whatever is at its path. -/
theorem nodeOf_eq_ok {disk : Disk} {location makefile : String} (settings : Settings)
    (hlocation : '\x00' ∉ location.toList) (hpath : '\x00' ∉ (Path.normalize makefile).toList) :
    nodeOf disk location settings makefile = .ok (nodeOfText settings makefile
      (disk.textAt (Disk.pathIn location (Path.normalize makefile)))) := by
  have hfree : '\x00' ∉ (Disk.pathIn location (Path.normalize makefile)).toList := by
    rw [Disk.pathIn, String.toList_ofList, Path.append]
    split
    · exact hpath
    · split
      · exact fun hnul => (List.mem_append.1 hnul).elim hlocation hpath
      · intro hnul
        rcases List.mem_append.1 hnul with hnul | hnul
        · exact hlocation hnul
        · rcases List.mem_cons.1 hnul with hslash | hnul
          · cases hslash
          · exact hpath hnul
  rw [nodeOf, Disk.readText_eq_ok hfree]
  rfl

/-- A project without a Makefile that can be read has no tasks. -/
theorem tasks_nodeOfText_none (settings : Settings) (makefile : String) :
    (nodeOfText settings makefile none).tasks = [] := by
  have hserved : ¬ Project.isServed [] = true := by decide
  rw [nodeOfText, Option.map_none, Option.getD_none, Project.tasks, if_neg hserved]
  rfl

variable {disk : Disk} {location : String} {children : List (String × Entry)}

/-- The node of a path that is reported is made of what is at the path. -/
theorem nodeOf_reported {names : List String}
    (found : disk.find "/" location = .ok (.folder children))
    (h : ∀ n ∈ names, isPosixName n = true) (settings : Settings) :
    nodeOf disk location settings (reported names) = .ok (nodeOfText settings (reported names)
      (disk.textAt (Disk.pathIn location (Path.normalize (reported names))))) := by
  have hlocation : '\x00' ∉ location.toList := by
    have hused := (Disk.find_eq_ok_iff.1 found).1
    simpa using hused.1
  exact nodeOf_eq_ok settings hlocation (Workspace.not_nul_of_reported h)

/-- What is listed as the Makefiles of a workspace, and the nodes that are made of it. -/
structure AreReported (disk : Disk) (location : String) (children : List (String × Entry))
    (ignores : List String) (settings : Settings) (listed : List String)
    (made : List (String × Node)) : Prop where
  /-- There is a node for each path, in order. -/
  paths_made : made.map Prod.fst = listed
  /-- The paths are those that are reported for the Makefiles. -/
  mem_iff : ∀ path, path ∈ listed ↔
    ∃ names, Workspace.IsMakefile children ignores names ∧ path = reported names
  /-- No path is listed twice exactly if no two Makefiles are reported under one path. -/
  nodup_iff : listed.Nodup ↔ ∀ names, Workspace.IsMakefile children ignores names →
    ∀ names', Workspace.IsMakefile children ignores names' →
      reported names = reported names' → names = names'
  /-- The path of a Makefile leads back to it exactly if its names hold no backslash. -/
  leads_back_iff : ∀ names, Workspace.IsMakefile children ignores names →
    (Disk.placeOf (Disk.pathIn location (reported names)) = Disk.placeOf location ++ names ↔
      ∀ n ∈ names, '\\' ∉ n.toList)
  /-- If so, and if the path is not too long to be used, the Makefile is found under it, and the
      node is made of its text. -/
  made_of_text : ∀ names content, Workspace.IsMakefile children ignores names →
    (Entry.folder children).at? names = some (.file content) → (∀ n ∈ names, '\\' ∉ n.toList) →
    Disk.CanBeUsed (Disk.pathIn location (reported names)) →
    disk.find "/" (Disk.pathIn location (reported names)) = .ok (.file content) ∧
      ∀ node, (reported names, node) ∈ made → node = nodeOfText settings (reported names)
        (some (Text.unifyNewlines (Text.Utf8.decodeLossy content)))
  /-- Where no file is at a path, the project has no tasks. -/
  no_tasks : ∀ path node, (path, node) ∈ made →
    (∀ content, disk.find "/" (Disk.pathIn location (Path.normalize path)) ≠ .ok (.file content)) →
    node.tasks = []

/-- The Makefiles of the workspace at a path are listed without an error, and all their nodes are
    made, whatever names the file system admits: every Makefile under the path that is reported for
    it, which leads back to it exactly if its names hold no backslash. -/
theorem makefiles_lead_back (shortest : Path.absolute "/" location = location)
    (found : disk.find "/" location = .ok (.folder children))
    (tree : (Entry.folder children).IsPosixTree) (extra : List String) (settings : Settings) :
    ∃ listed made, Workspace.makefiles disk location extra = .ok listed ∧
      createNodes disk location settings listed = .ok made ∧
      AreReported disk location children (ignoresFor children extra) settings listed made := by
  have hmem : ∀ path, path ∈ makefilesIn children extra ↔ ∃ names,
      Workspace.IsMakefile children (ignoresFor children extra) names ∧ path = reported names :=
    fun path => Workspace.mem_makefilesIn_iff_isMakefile tree
  have hnode : ∀ path ∈ makefilesIn children extra, nodeOf disk location settings path =
      .ok (nodeOfText settings path
        (disk.textAt (Disk.pathIn location (Path.normalize path)))) := by
    intro path hpath
    obtain ⟨names, h, rfl⟩ := (hmem path).1 hpath
    exact nodeOf_reported found (h.isPosixName tree) settings
  obtain ⟨made, hmade, hpaths, hnodes⟩ := exists_createNodes_eq_ok fun path hpath =>
    ⟨_, hnode path hpath⟩
  have hmadeOf : ∀ path node, (path, node) ∈ made →
      node = nodeOfText settings path
        (disk.textAt (Disk.pathIn location (Path.normalize path))) := by
    intro path node hentry
    have hpath : path ∈ makefilesIn children extra := hpaths ▸ List.mem_map_of_mem hentry
    exact Except.ok.inj ((hnodes _ hentry).symm.trans (hnode path hpath))
  have hlisted : Workspace.makefiles disk location extra = .ok (makefilesIn children extra) :=
    Workspace.makefiles_of_find (by rwa [shortest]) extra
  refine ⟨makefilesIn children extra, made, hlisted, hmade, hpaths, hmem,
    Workspace.nodup_makefilesIn_iff tree, ?_, ?_, ?_⟩
  · intro names h
    exact Disk.placeOf_reported_eq_iff (h.isPosixName tree)
  · intro names content h hfile hplain hused
    have hfind := Disk.find_reported shortest found (h.isPosixName tree) hplain hfile hused
    refine ⟨hfind, fun node hentry => ?_⟩
    rw [hmadeOf _ _ hentry, h.normalize_reported tree hplain, Disk.textAt, hfind]
  · intro path node hentry hnofile
    rw [hmadeOf _ _ hentry, Disk.textAt_eq_none hnofile, tasks_nodeOfText_none]

/-- A workspace with a library, and with a project in a folder whose name holds a backslash. -/
def slanted : List (String × Entry) :=
  [("a\\b", .folder [("Makefile", .file (Text.Utf8.encode "all:\n"))]),
    ("lib", .folder [("Makefile", .file (Text.Utf8.encode "build:\n"))])]

private theorem find_slanted (entries : List (String × Entry)) :
    (Disk.mk [("w", .folder entries)]).find "/" "/w" = .ok (.folder entries) :=
  rfl

private theorem isPosixTree_slanted : (Entry.folder slanted).IsPosixTree := by
  have hname : isPosixName "Makefile" = true := by decide
  have hleaf : ∀ content : Text.Utf8.Bytes,
      (Entry.folder [("Makefile", .file content)]).IsPosixTree := by
    intro content
    rw [Entry.isPosixTree_folder_iff]
    exact ⟨List.nodup_singleton _,
      List.forall_mem_singleton.2 ⟨hname, Entry.isPosixTree_file content⟩⟩
  rw [Entry.isPosixTree_folder_iff, slanted]
  refine ⟨by decide +kernel, List.forall_mem_cons.2 ⟨⟨by decide, hleaf _⟩, ?_⟩⟩
  exact List.forall_mem_singleton.2 ⟨by decide, hleaf _⟩

/-- The Makefiles of this workspace are listed, and their nodes are made. -/
theorem makefiles_lead_back_slanted :
    Path.absolute "/" "/w" = "/w" ∧
      (Disk.mk [("w", .folder slanted)]).find "/" "/w" = .ok (.folder slanted) ∧
      (Entry.folder slanted).IsPosixTree ∧
      ∃ listed made, Workspace.makefiles ⟨[("w", .folder slanted)]⟩ "/w" [] = .ok listed ∧
        createNodes ⟨[("w", .folder slanted)]⟩ "/w" {} listed = .ok made ∧
        AreReported ⟨[("w", .folder slanted)]⟩ "/w" slanted (ignoresFor slanted []) {} listed
          made := by
  have hshortest : Path.absolute "/" "/w" = "/w" := by decide +kernel
  exact ⟨hshortest, find_slanted slanted, isPosixTree_slanted,
    makefiles_lead_back hshortest (find_slanted slanted) isPosixTree_slanted [] {}⟩

/-- The same workspace, with a project at the path that is reported for the first instead of the
    library. -/
def crowded : List (String × Entry) :=
  [("a", .folder [("b", .folder [("Makefile", .file (Text.Utf8.encode "run:\n"))])]),
    ("a\\b", .folder [("Makefile", .file (Text.Utf8.encode "all:\n"))])]

/-- Makefiles that are found in order are listed so. -/
private theorem makefiles_eq_of_found {entries : List (String × Entry)} {paths : List String}
    (h : Workspace.makefilesBelow (ignoresFor entries []) "" entries = paths)
    (sorted : paths.Pairwise (· ≤ ·)) :
    Workspace.makefiles ⟨[("w", .folder entries)]⟩ "/w" [] = .ok paths := by
  have hshortest : Path.absolute "/" "/w" = "/w" := by decide +kernel
  have hfound := find_slanted entries
  rw [← hshortest] at hfound
  rw [Workspace.makefiles_of_find hfound, Workspace.makefilesIn_eq_of_pairwise (by rwa [h]), h]

/-- The path that is listed for a Makefile in a folder whose name holds a backslash leads nowhere,
    and the node made of it has no tasks, although the Makefile has a target. If there is a Makefile
    at that path too, the path is listed twice. -/
theorem backslash_leads_elsewhere :
    Workspace.makefiles ⟨[("w", .folder slanted)]⟩ "/w" [] =
        .ok ["a/b/Makefile", "lib/Makefile"] ∧
      (Disk.mk [("w", .folder slanted)]).readText "/w/a/b/Makefile" = .ok none ∧
      (Disk.mk [("w", .folder slanted)]).readText "/w/a\\b/Makefile" =
        .ok (some "all:\n".toList) ∧
      ((nodeOf ⟨[("w", .folder slanted)]⟩ "/w" {} "a/b/Makefile").toOption.map fun node =>
        (node.root, node.tasks.keys)) = some ("a/b", []) ∧
      Workspace.makefiles ⟨[("w", .folder crowded)]⟩ "/w" [] =
        .ok ["a/b/Makefile", "a/b/Makefile"] := by
  refine ⟨makefiles_eq_of_found (by decide +kernel) (by decide), ?_, ?_, ?_,
    makefiles_eq_of_found (by decide +kernel) (by decide)⟩
  · decide +kernel
  · decide +kernel
  · decide +kernel

end Inference

end MakeAtlas
