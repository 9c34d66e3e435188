import MakeAtlas.Proofs.Inference.Attempts
import MakeAtlas.Proofs.Workers
import MakeAtlas.Proofs.Workspace.OtherContents
import MakeAtlas.Proofs.Workspace.ProjectFolder
import Mathlib.Data.List.Forall2

/-!
# Nodes that are made together

Workers make the nodes of some Makefiles, each from its own Makefile, and may finish in any order.
An attempt that fails keeps no other from being made. If none fails, there is a node for each
Makefile, in order; if some fail, the failures and the nodes of the others are reported together,
both in the order of the Makefiles, which may be repeated.

## Key results

- `nodeOf_eq_error_iff`: which Makefiles have no node
- `nodeOf_eq_of_sameShape`: a node is made of its own Makefile
- `created_together`: all of it, for any Makefiles
-/

namespace MakeAtlas

/-- Nothing can be read exactly at paths with a NUL. -/
theorem Disk.readText_eq_error_iff {disk : Disk} {path : String} {e : FileError} :
    disk.readText path = .error e ↔ '\x00' ∈ path.toList ∧ e = ⟨.nullByte, path⟩ := by
  by_cases hnul : '\x00' ∈ path.toList
  · have hfind : disk.find "/" path = .error ⟨.nullByte, path⟩ := by
      rw [find, if_pos (by simp [hnul])]
    simp [readText, contentsOf, hfind, unlessImpossible, Except.map, hnul, eq_comm]
  · simp [readText_eq_ok hnul, hnul]

namespace Inference

/-! ## The node of one Makefile -/

variable {disk : Disk} {location : String} {settings : Settings} {makefile : String}

/-- A Makefile has no node exactly if its path can be no file's path. -/
theorem nodeOf_eq_error_iff {e : FileError} :
    nodeOf disk location settings makefile = .error e ↔
      '\x00' ∈ (Disk.pathIn location (Path.normalize makefile)).toList ∧
        e = ⟨.nullByte, Disk.pathIn location (Path.normalize makefile)⟩ := by
  have hread : disk.readText (Disk.pathIn location (Path.normalize makefile)) = .error e ↔ _ :=
    Disk.readText_eq_error_iff
  rw [nodeOf, ← hread]
  cases disk.readText (Disk.pathIn location (Path.normalize makefile)) <;> simp [Except.map]

/-- A node is made of its own Makefile: what is in other files has no say in it. -/
theorem nodeOf_eq_of_sameShape {other : Disk}
    (same : Disk.SameShape (.folder disk.root) (.folder other.root))
    (own : (Entry.folder disk.root).face?
        (Disk.place "/" (Disk.pathIn location (Path.normalize makefile))) =
      (Entry.folder other.root).face?
        (Disk.place "/" (Disk.pathIn location (Path.normalize makefile)))) :
    nodeOf disk location settings makefile = nodeOf other location settings makefile := by
  rw [nodeOf, Disk.readText_eq_of_sameShape same own, nodeOf]

/-! ## All of them together -/

/-- What becomes of Makefiles whose nodes are made together. -/
structure CreatedTogether (disk : Disk) (location : String) (settings : Settings)
    (makefiles : List String) : Prop where
  /-- The order in which workers finish changes nothing, -/
  anyOrder : ∀ workers places,
    Workers.Reaches workers (attempted disk location settings) (Workers.start makefiles) places →
    Workers.IsDone places →
    gathered (Workers.results places) = createNodes disk location settings makefiles
  /-- and however far they have come, they can finish. -/
  finishes : ∀ workers, 0 < workers →
    ∀ places : List (Workers.Place String (String × Except FileError Node)),
      ∃ last, Workers.Reaches workers (attempted disk location settings) places last ∧
        Workers.IsDone last
  /-- If no attempt fails, there is the node of each Makefile, in order. -/
  allMade : (∀ makefile ∈ makefiles, ∃ node,
      nodeOf disk location settings makefile = .ok node) →
    ∃ made, createNodes disk location settings makefiles = .ok made ∧
      List.Forall₂ (fun makefile entry =>
        entry.1 = makefile ∧ nodeOf disk location settings makefile = .ok entry.2) makefiles made
  /-- If some fail, what is reported are the Makefiles that failed and those that have a node, both
  in order; together they are the Makefiles that were given, as often as they were. -/
  someFailed : (∃ makefile ∈ makefiles, ∃ e,
      nodeOf disk location settings makefile = .error e) →
    ∃ error, createNodes disk location settings makefiles = .error error ∧
      Divides (nodeOf disk location settings) makefiles error.failures error.nodes ∧
      (error.failures.map Prod.fst ++ error.nodes.map Prod.fst).Perm makefiles
  /-- It is the same whichever attempts fail, and for whatever reason. -/
  anyFailures : ∀ run : String → Except FileError Node,
    (∃ made, gathered (makefiles.map fun makefile => (makefile, run makefile)) = .ok made ∧
        Divides run makefiles [] made) ∨
      ∃ error, gathered (makefiles.map fun makefile => (makefile, run makefile)) = .error error ∧
        error.failures ≠ [] ∧ Divides run makefiles error.failures error.nodes
  /-- Those fail whose path has a NUL. -/
  fails_iff : ∀ makefile e, nodeOf disk location settings makefile = .error e ↔
    '\x00' ∈ (Disk.pathIn location (Path.normalize makefile)).toList ∧
      e = ⟨.nullByte, Disk.pathIn location (Path.normalize makefile)⟩
  /-- What comes of a Makefile does not depend on what is in any other file. -/
  ownFile : ∀ makefile (other : Disk), Disk.SameShape (.folder disk.root) (.folder other.root) →
    (Entry.folder disk.root).face?
        (Disk.place "/" (Disk.pathIn location (Path.normalize makefile))) =
      (Entry.folder other.root).face?
        (Disk.place "/" (Disk.pathIn location (Path.normalize makefile))) →
    nodeOf disk location settings makefile = nodeOf other location settings makefile

/-- The nodes of any Makefiles are made together. -/
theorem created_together (disk : Disk) (location : String) (settings : Settings)
    (makefiles : List String) : CreatedTogether disk location settings makefiles where
  anyOrder workers places hreaches hdone := by
    rw [Workers.results_of_reaches hreaches hdone, createNodes_eq_gathered]
  finishes workers hworkers places := Workers.exists_reaches_isDone hworkers _ places
  allMade h := by
    obtain ⟨made, hmade, rfl, hentries⟩ := exists_createNodes_eq_ok h
    refine ⟨made, hmade, ?_⟩
    rw [List.forall₂_map_left_iff, List.forall₂_same]
    exact fun entry hentry => ⟨rfl, hentries entry hentry⟩
  someFailed := by
    rintro ⟨makefile, hmakefile, e, hfails⟩
    obtain ⟨failed, hfailed, hdivides⟩ := exists_createNodes_eq_error hmakefile hfails
    exact ⟨failed, hfailed, hdivides, hdivides.perm⟩
  anyFailures run := gathered_cases run makefiles
  fails_iff _ _ := nodeOf_eq_error_iff
  ownFile _ _ := nodeOf_eq_of_sameShape

-- a path that fails twice is reported twice, and the one in between has its node
example : ((createNodes {} "/w" {} ["a\x00/Makefile", "b/Makefile", "a\x00/Makefile"]).mapError
    fun e => (e.failures.map Prod.fst, e.nodes.map Prod.fst)) =
      .error (["a\x00/Makefile", "a\x00/Makefile"], ["b/Makefile"]) := rfl

end Inference

end MakeAtlas
