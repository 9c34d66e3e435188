import MakeAtlas.Inference.Nodes
import Mathlib.Data.List.Perm.Lattice

/-!
# What comes of attempts

Each Makefile of a workspace is tried by itself, and what comes of all attempts is put together
afterwards: the failures by themselves, the nodes by themselves, both in the order of the Makefiles.

## Key results

- `divides_failures_successes`: every key is either among the failures or among the successes
- `gathered_cases`: what attempts come to together, whichever of them fail
- `exists_createNodes_eq_ok`, `exists_createNodes_eq_error`: when there are only nodes, and when
  there are failures
-/

namespace MakeAtlas.Inference

/-! ## Failures and successes -/

section Divides

variable {α : Type} {results : List (String × Except FileError α)} {key : String}

theorem mem_failures_iff {e : FileError} :
    (key, e) ∈ failures results ↔ (key, .error e) ∈ results := by
  rw [failures, List.mem_filterMap]
  constructor
  · rintro ⟨⟨other, fault | found⟩, hmem, hsome⟩
    · cases hsome
      exact hmem
    · cases hsome
  · exact fun hmem => ⟨_, hmem, rfl⟩

theorem mem_successes_iff {a : α} :
    (key, a) ∈ successes results ↔ (key, .ok a) ∈ results := by
  rw [successes, List.mem_filterMap]
  constructor
  · rintro ⟨⟨other, fault | found⟩, hmem, hsome⟩
    · cases hsome
    · cases hsome
      exact hmem
  · exact fun hmem => ⟨_, hmem, rfl⟩

/-- Keys are divided into those that a function fails on and those that it has a result for; both
keep their order. -/
structure Divides (run : String → Except FileError α) (keys : List String)
    (failed : List (String × FileError)) (made : List (String × α)) : Prop where
  failed_keys : failed.map Prod.fst = keys.filter fun key => !(run key).isOk
  made_keys : made.map Prod.fst = keys.filter fun key => (run key).isOk
  failed_run : ∀ entry ∈ failed, run entry.1 = .error entry.2
  made_run : ∀ entry ∈ made, run entry.1 = .ok entry.2

variable {run : String → Except FileError α} {keys : List String}
  {failed : List (String × FileError)} {made : List (String × α)}

/-- No key is lost, and none is there more often than it was asked for. -/
theorem Divides.perm (h : Divides run keys failed made) :
    (failed.map Prod.fst ++ made.map Prod.fst).Perm keys := by
  rw [h.failed_keys, h.made_keys]
  exact List.perm_append_comm.trans (List.filter_append_perm _ keys)

/-- If nothing fails, every key has its result, in order. -/
theorem Divides.map_fst_eq (h : Divides run keys [] made) : made.map Prod.fst = keys := by
  have hnone : ∀ key ∈ keys, (run key).isOk = true := by
    simpa [List.filter_eq_nil_iff] using h.failed_keys.symm
  rw [h.made_keys, List.filter_eq_self.2 hnone]

/-- The failures and the successes among the results for some keys divide the keys. -/
theorem divides_failures_successes (run : String → Except FileError α) (keys : List String) :
    Divides run keys (failures (keys.map fun key => (key, run key)))
      (successes (keys.map fun key => (key, run key))) where
  failed_keys := by
    induction keys with
    | nil => rfl
    | cons key keys ih =>
      cases hrun : run key with
      | ok a => simpa [failures, hrun, Except.isOk, Except.toBool] using ih
      | error e => simpa [failures, hrun, Except.isOk, Except.toBool] using ih
  made_keys := by
    induction keys with
    | nil => rfl
    | cons key keys ih =>
      cases hrun : run key with
      | ok a => simpa [successes, hrun, Except.isOk, Except.toBool] using ih
      | error e => simpa [successes, hrun, Except.isOk, Except.toBool] using ih
  failed_run := by
    rintro ⟨key, e⟩ hentry
    obtain ⟨_, -, heq⟩ := List.mem_map.1 (mem_failures_iff.1 hentry)
    rw [Prod.mk.injEq] at heq
    rw [← heq.1, heq.2]
  made_run := by
    rintro ⟨key, a⟩ hentry
    obtain ⟨_, -, heq⟩ := List.mem_map.1 (mem_successes_iff.1 hentry)
    rw [Prod.mk.injEq] at heq
    rw [← heq.1, heq.2]

/-- What attempts come to together. -/
def gathered (attempts : List (String × Except FileError Node)) :
    Except NodesError (List (String × Node)) :=
  match failures attempts with
  | [] => .ok (successes attempts)
  | failed => .error ⟨failed, successes attempts⟩

/-- Whichever attempts fail, either none has failed and there is the node of every key, or what is
reported are some failures and the nodes of the others. -/
theorem gathered_cases (run : String → Except FileError Node) (keys : List String) :
    (∃ made, gathered (keys.map fun key => (key, run key)) = .ok made ∧
        Divides run keys [] made) ∨
      ∃ e, gathered (keys.map fun key => (key, run key)) = .error e ∧ e.failures ≠ [] ∧
        Divides run keys e.failures e.nodes := by
  have hdivides := divides_failures_successes run keys
  rw [gathered]
  split
  · next hnone =>
    rw [hnone] at hdivides
    exact Or.inl ⟨_, rfl, hdivides⟩
  · next hsome => exact Or.inr ⟨_, rfl, hsome, hdivides⟩

end Divides

/-! ## Nodes that are made together -/

/-- What the attempt to make the node of a Makefile comes to. -/
def attempted (disk : Disk) (location : String) (settings : Settings) (makefile : String) :
    String × Except FileError Node :=
  (makefile, nodeOf disk location settings makefile)

variable {disk : Disk} {location : String} {settings : Settings} {makefiles : List String}

theorem createNodes_eq_gathered : createNodes disk location settings makefiles =
    gathered (makefiles.map (attempted disk location settings)) := rfl

/-- Where there are only nodes, no Makefile has failed. -/
theorem divides_of_createNodes_ok {made : List (String × Node)}
    (h : createNodes disk location settings makefiles = .ok made) :
    Divides (nodeOf disk location settings) makefiles [] made := by
  rw [createNodes_eq_gathered] at h
  rcases gathered_cases (nodeOf disk location settings) makefiles with
    ⟨_, hmade, hdivides⟩ | ⟨e, he, -⟩
  · cases h.symm.trans hmade
    exact hdivides
  · cases h.symm.trans he

/-- Where every Makefile has a node, all nodes are made, in order. -/
theorem exists_createNodes_eq_ok
    (h : ∀ makefile ∈ makefiles, ∃ node, nodeOf disk location settings makefile = .ok node) :
    ∃ made, createNodes disk location settings makefiles = .ok made ∧
      made.map Prod.fst = makefiles ∧
      ∀ entry ∈ made, nodeOf disk location settings entry.1 = .ok entry.2 := by
  rcases gathered_cases (nodeOf disk location settings) makefiles with
    ⟨made, hmade, hdivides⟩ | ⟨e, -, hsome, hdivides⟩
  · exact ⟨made, hmade, hdivides.map_fst_eq, hdivides.made_run⟩
  · -- one that failed would have a node
    obtain ⟨entry, hentry⟩ := List.exists_mem_of_ne_nil _ hsome
    have hkey : entry.1 ∈ makefiles := by
      have hmem := List.mem_map_of_mem (f := Prod.fst) hentry
      rw [hdivides.failed_keys] at hmem
      exact List.mem_of_mem_filter hmem
    obtain ⟨node, hnode⟩ := h _ hkey
    rw [hdivides.failed_run entry hentry] at hnode
    cases hnode

/-- Where a Makefile fails, the failures are reported together with the nodes of the others. -/
theorem exists_createNodes_eq_error {makefile : String} {fault : FileError}
    (hmakefile : makefile ∈ makefiles)
    (hfails : nodeOf disk location settings makefile = .error fault) :
    ∃ e, createNodes disk location settings makefiles = .error e ∧
      Divides (nodeOf disk location settings) makefiles e.failures e.nodes := by
  rcases gathered_cases (nodeOf disk location settings) makefiles with
    ⟨made, -, hdivides⟩ | ⟨e, he, -, hdivides⟩
  · -- the Makefile would be among those that failed
    have hfailed : makefile ∈ makefiles.filter
        fun key => !(nodeOf disk location settings key).isOk := by
      rw [List.mem_filter, hfails]
      exact ⟨hmakefile, rfl⟩
    rw [← hdivides.failed_keys] at hfailed
    cases hfailed
  · exact ⟨e, he, hdivides⟩

end MakeAtlas.Inference
