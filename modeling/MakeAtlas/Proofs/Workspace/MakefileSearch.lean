import MakeAtlas.Proofs.Workspace.Discovered
import Mathlib.Data.List.Nodup

/-!
# The list of Makefiles

The Makefiles of a workspace are listed in the order of their paths, each once, and they are those
of its files named so that no pattern keeps out. So the list says nothing of the order in which the
folders list their entries.

## Key results

- `leavesOut_eq_false_iff`: what it means that nothing on the way is named by a pattern
- `nodup_makefilesIn`: no Makefile is found twice
- `mem_makefilesIn_iff_isKept`: which Makefiles are found
- `makefilesIn_eq_of_face?_eq`: the same files under the same names give the same list
- `makefiles_listed`: all of it, for the workspace at a path
-/

namespace MakeAtlas.Workspace

open MakeAtlas.Path (isName joined)

variable {ignores above names extra : List String} {children reordered : List (String × Entry)}
  {name path : String}

/-! ## What is kept -/

/-- The search leaves out nothing that names lead to exactly if no pattern names the entry at the
    end of the way, nor a folder on it. -/
theorem leavesOut_eq_false_iff :
    leavesOut ignores above names = false ↔
      ∀ front name back, names = front ++ name :: back →
        isIgnored ignores (joined (above ++ front ++ [name])) name (!back.isEmpty) = false := by
  induction names generalizing above with
  | nil => simp [leavesOut]
  | cons first rest ih =>
    rw [leavesOut, Bool.or_eq_false_iff, ih]
    constructor
    · rintro ⟨hfirst, hrest⟩ front name back hsplit
      cases front with
      | nil =>
        rw [List.nil_append, List.cons.injEq] at hsplit
        obtain ⟨rfl, rfl⟩ := hsplit
        rw [List.append_nil]
        exact hfirst
      | cons other front =>
        rw [List.cons_append, List.cons.injEq] at hsplit
        obtain ⟨rfl, rfl⟩ := hsplit
        rw [List.append_cons above first front]
        exact hrest front name back rfl
    · intro h
      refine ⟨?_, fun front name back hsplit => ?_⟩
      · have hfirst := h [] first rest rfl
        rwa [List.append_nil] at hfirst
      · have hrest := h (first :: front) name back (by rw [hsplit, List.cons_append])
        rwa [List.append_cons above first front] at hrest

/-- Names lead to a Makefile of a workspace that patterns keep: none of them names the file, as a
    file, or a folder on the way to it, as a folder, be it by name or by path. -/
structure IsKept (children : List (String × Entry)) (ignores names : List String) : Prop where
  isFile : ∃ content, (Entry.folder children).at? names = some (.file content)
  named : names.getLast? = some makefileName
  notIgnored : ∀ front name back, names = front ++ name :: back →
    isIgnored ignores (joined (front ++ [name])) name (!back.isEmpty) = false

/-- The Makefiles found in a workspace are those that its patterns keep. -/
theorem mem_makefilesIn_iff_isKept (tree : (Entry.folder children).IsTree) :
    path ∈ makefilesIn children extra ↔
      ∃ names, IsKept children (ignoresFor children extra) names ∧ path = joined names := by
  rw [mem_makefilesIn_iff tree]
  constructor
  · rintro ⟨names, content, hfile, hout, hpath⟩
    refine ⟨names ++ [makefileName], ⟨⟨content, hfile⟩, List.getLast?_concat, ?_⟩, hpath⟩
    simpa only [List.nil_append] using leavesOut_eq_false_iff.1 hout
  · rintro ⟨names, ⟨⟨content, hfile⟩, hnamed, hfree⟩, hpath⟩
    obtain ⟨front, rfl⟩ := List.getLast?_eq_some_iff.1 hnamed
    refine ⟨front, content, hfile, leavesOut_eq_false_iff.2 ?_, hpath⟩
    simpa only [List.nil_append] using hfree

/-! ## Each once, in order -/

/-- Where no Makefile is found twice in an entry of a folder, none is found twice in the folder: the
    paths below two entries begin with different names. -/
private theorem nodup_makefilesBelow (tree : (Entry.folder children).IsTree)
    (habove : ∀ n ∈ above, isName n = true)
    (each : ∀ child ∈ children, (makefilesOf ignores (joined above) child.1 child.2).Nodup) :
    (makefilesBelow ignores (joined above) children).Nodup := by
  obtain ⟨hkeys, hchildren⟩ := Entry.isTree_folder_iff.1 tree
  rw [Table.keys, List.nodup_iff_pairwise_ne, List.pairwise_map] at hkeys
  rw [makefilesBelow_eq_flatMap, List.nodup_flatMap]
  refine ⟨each, hkeys.imp_of_mem fun {a b} ha hb hne path hpath hother => hne ?_⟩
  obtain ⟨hname, htree⟩ := hchildren a ha
  obtain ⟨hname', htree'⟩ := hchildren b hb
  obtain ⟨below, _, hfile, -, -, rfl⟩ := (mem_makefilesOf_iff htree habove hname).1 hpath
  obtain ⟨below', _, hfile', -, -, hsame⟩ := (mem_makefilesOf_iff htree' habove hname').1 hother
  have hall := List.forall_mem_append.2
    ⟨habove, List.forall_mem_cons.2 ⟨hname, htree.isName_of_at? hfile⟩⟩
  have hall' := List.forall_mem_append.2
    ⟨habove, List.forall_mem_cons.2 ⟨hname', htree'.isName_of_at? hfile'⟩⟩
  have hnames := List.append_cancel_left (Path.joined_injective hall hall' hsame)
  exact (List.cons.inj hnames).1

/-- No Makefile is found twice in an entry. -/
private theorem nodup_makefilesOf {entry : Entry} (tree : entry.IsTree)
    (habove : ∀ n ∈ above, isName n = true) (hname : isName name = true) :
    (makefilesOf ignores (joined above) name entry).Nodup := by
  induction entry using Entry.inductionOn generalizing above name with
  | file content =>
    rw [makefilesOf]
    split
    · exact List.nodup_nil
    · exact List.nodup_singleton _
  | folder children ih =>
    rw [makefilesOf, pathBelow_joined habove]
    split
    · exact List.nodup_nil
    · have hall : ∀ n ∈ above ++ [name], isName n = true :=
        List.forall_mem_append.2 ⟨habove, List.forall_mem_singleton.2 hname⟩
      refine nodup_makefilesBelow tree hall fun child hchild => ?_
      obtain ⟨hchildName, htree⟩ := (Entry.isTree_folder_iff.1 tree).2 child hchild
      exact ih child hchild htree hall hchildName

/-- No Makefile of a workspace is listed twice. -/
theorem nodup_makefilesIn (tree : (Entry.folder children).IsTree) (extra : List String) :
    (makefilesIn children extra).Nodup := by
  rw [(makefilesIn_perm children extra).nodup_iff]
  have hnone : ∀ n ∈ ([] : List String), isName n = true := fun _ hn => absurd hn List.not_mem_nil
  have hbelow : (makefilesBelow (ignoresFor children extra) (joined []) children).Nodup := by
    refine nodup_makefilesBelow tree hnone fun child hchild => ?_
    obtain ⟨hname, htree⟩ := (Entry.isTree_folder_iff.1 tree).2 child hchild
    exact nodup_makefilesOf htree hnone hname
  exact hbelow

/-- The Makefiles of a workspace are listed in the order of their paths. -/
theorem pairwise_makefilesIn (children : List (String × Entry)) (extra : List String) :
    (makefilesIn children extra).Pairwise (· ≤ ·) :=
  pairwise_mergeSort_names _

/-! ## Entries in another order -/

/-- The ignore file is the file of its name, wherever the folder lists it. -/
theorem ignoreFilePatterns_eq_of_face?_eq
    (same : ∀ names, (Entry.folder children).face? names = (Entry.folder reordered).face? names) :
    ignoreFilePatterns children = ignoreFilePatterns reordered := by
  have hentry : ∀ entries : List (String × Entry),
      (Entry.folder entries).face? [ignoreFileName] =
        (Table.get? entries ignoreFileName).map Entry.face := by
    intro entries
    rw [Entry.face?, Entry.at?_folder_cons]
    cases Table.get? entries ignoreFileName <;> simp
  have hface := same [ignoreFileName]
  rw [hentry, hentry] at hface
  unfold ignoreFilePatterns
  generalize Table.get? children ignoreFileName = found at hface ⊢
  generalize Table.get? reordered ignoreFileName = found' at hface ⊢
  rcases found with _ | content | entries <;> rcases found' with _ | content' | entries' <;>
    simp_all [Entry.face]

/-- Of workspaces with the same files and folders under the same names, the same Makefiles are
    kept. -/
theorem IsKept.of_face?_eq
    (same : ∀ names, (Entry.folder children).face? names = (Entry.folder reordered).face? names)
    (h : IsKept children ignores names) : IsKept reordered ignores names where
  isFile := by
    obtain ⟨content, hfile⟩ := h.isFile
    exact ⟨content, Entry.face?_eq_file_iff.1 (same names ▸ Entry.face?_eq_file_iff.2 hfile)⟩
  named := h.named
  notIgnored := h.notIgnored

/-- A workspace with the same files and folders under the same names has the same list of Makefiles,
    whatever order its folders list their entries in. -/
theorem makefilesIn_eq_of_face?_eq (tree : (Entry.folder children).IsTree)
    (tree' : (Entry.folder reordered).IsTree)
    (same : ∀ names, (Entry.folder children).face? names = (Entry.folder reordered).face? names)
    (extra : List String) : makefilesIn children extra = makefilesIn reordered extra := by
  have hignores : ignoresFor children extra = ignoresFor reordered extra := by
    rw [ignoresFor, ignoresFor, ignoreFilePatterns_eq_of_face?_eq same]
  have hperm : (makefilesIn children extra).Perm (makefilesIn reordered extra) := by
    rw [List.perm_ext_iff_of_nodup (nodup_makefilesIn tree extra) (nodup_makefilesIn tree' extra)]
    intro path
    rw [mem_makefilesIn_iff_isKept tree, mem_makefilesIn_iff_isKept tree', hignores]
    exact exists_congr fun names => and_congr_left fun _ =>
      ⟨fun h => h.of_face?_eq same, fun h => h.of_face?_eq fun names => (same names).symm⟩
  exact eq_of_perm_of_pairwise_names hperm (pairwise_makefilesIn children extra)
    (pairwise_makefilesIn reordered extra)

/-! ## The workspace at a path -/

/-- The Makefiles of the workspace at a path, a tree of files and folders, are listed without an
    error: in order, each once, and exactly those that are kept by the built-in patterns, those of
    the ignore file and those of the caller. The list is the same for every workspace with the same
    files and folders under the same names. -/
theorem makefiles_listed {disk : Disk} {location : String}
    (found : disk.find "/" (Path.absolute "/" location) = .ok (.folder children))
    (tree : (Entry.folder children).IsTree) (extra : List String) :
    ∃ listed, makefiles disk location extra = .ok listed ∧ listed.Pairwise (· < ·) ∧
      (∀ path, path ∈ listed ↔ ∃ names,
        IsKept children (builtinIgnores ++ ignoreFilePatterns children ++ extra) names ∧
          path = joined names) ∧
      ∀ (disk' : Disk) location' reordered,
        disk'.find "/" (Path.absolute "/" location') = .ok (.folder reordered) →
        (Entry.folder reordered).IsTree →
        (∀ names, (Entry.folder children).face? names = (Entry.folder reordered).face? names) →
        makefiles disk' location' extra = .ok listed := by
  refine ⟨makefilesIn children extra, ?_, ?_, ?_, ?_⟩
  · exact makefiles_of_find found extra
  · have hne := nodup_makefilesIn tree extra
    exact List.Pairwise.imp₂ (fun _ _ hle hab => Std.lt_of_le_of_ne hle hab)
      (pairwise_makefilesIn children extra) hne
  · intro path
    rw [mem_makefilesIn_iff_isKept tree, ignoresFor]
  · intro disk' location' reordered found' tree' same
    rw [makefiles_of_find found', makefilesIn_eq_of_face?_eq tree tree' same]

/-- A workspace that keeps foreign sources, which its ignore file names, and an old library. -/
def orchard : List (String × Entry) :=
  [("vendor", .folder [("Makefile", .file (Text.Utf8.encode "all:\n"))]),
    ("lib", .folder [
      ("old", .folder [("Makefile", .file (Text.Utf8.encode "all:\n"))]),
      ("Makefile", .file (Text.Utf8.encode "all:\n"))]),
    ("Makefile", .file (Text.Utf8.encode "all:\n")),
    (".gitignore", .file (Text.Utf8.encode "# foreign\nvendor/\n"))]

private theorem find_orchard (entries : List (String × Entry)) :
    (Disk.mk [("w", .folder entries)]).find "/" (Path.absolute "/" "/w") = .ok (.folder entries) :=
  rfl

/-- Without the old library, which the caller names, the workspace has a list of Makefiles, and it
    is the same if the entries of the workspace are listed in reverse. -/
theorem makefiles_listed_orchard :
    (Entry.folder orchard).IsTree ∧ (Entry.folder orchard.reverse).IsTree ∧
      ∃ listed, makefiles ⟨[("w", .folder orchard)]⟩ "/w" ["lib/old"] = .ok listed ∧
        listed.Pairwise (· < ·) ∧
        (∀ path, path ∈ listed ↔ ∃ names,
          IsKept orchard (builtinIgnores ++ ignoreFilePatterns orchard ++ ["lib/old"]) names ∧
            path = joined names) ∧
        makefiles ⟨[("w", .folder orchard.reverse)]⟩ "/w" ["lib/old"] = .ok listed := by
  have htree : (Entry.folder orchard).IsTree := by decide +kernel
  have htree' : (Entry.folder orchard.reverse).IsTree := by decide +kernel
  have hsame := Entry.face?_eq_of_perm (List.reverse_perm orchard).symm
    (Entry.isTree_folder_iff.1 htree).1
  obtain ⟨listed, hlisted, hsorted, hmem, hreordered⟩ :=
    makefiles_listed (find_orchard orchard) htree ["lib/old"]
  exact ⟨htree, htree', listed, hlisted, hsorted, hmem,
    hreordered _ "/w" orchard.reverse (find_orchard orchard.reverse) htree' hsame⟩

end MakeAtlas.Workspace
