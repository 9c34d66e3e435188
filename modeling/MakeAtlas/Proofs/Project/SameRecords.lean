import MakeAtlas.Proofs.Project.Records
import MakeAtlas.Proofs.TableKeys
import Mathlib.Tactic.MkIffOfInductiveProp

/-!
# Records that say the same

The record of a node or of a dependency says all there is to it. It is read back, and no two nodes
or dependencies have the same record. Whoever gets a record may look at its tables by their keys
only, in whatever order the keys stand, and may compare single values in a way of their own; even
then two records say the same exactly if the nodes or dependencies are the same in that sense.

## Key results

- `Node.isValid_iff`: nodes that can be read are those that keep the rules
- `alike_cons_iff`, `alike_append_iff`, `alike_table_map_iff`: records are alike part by part, also
  where the last part may be left out, and tables of records key by key
- `Task.alike_toValue_iff`, `Node.alike_toValue_iff`, `Dependency.alike_toValue_iff`: which records
  are alike
- `records_tell`: all of it
-/

namespace MakeAtlas

namespace Value

/-! ## Values that are alike -/

/-- A way to compare single values. Texts, truth values and whole numbers are told apart by it, and
lists and tables are no single values. Whether, say, a whole number is the same as a double is left
open. -/
structure Comparison where
  same : Value → Value → Prop
  text_iff (s t : String) : same (.text s) (.text t) ↔ s = t
  bool_iff (a b : Bool) : same (.bool a) (.bool b) ↔ a = b
  int_iff (m n : Int) : same (.int m) (.int n) ↔ m = n
  not_list (items others : List Value) : ¬ same (.list items) (.list others)
  not_table (es fs : List (String × Value)) : ¬ same (.table es) (.table fs)

/-- Values that are alike: lists item by item, and tables key by key, in whatever order their keys
stand. -/
inductive Alike (c : Comparison) : Value → Value → Prop
  | single {v w : Value} (h : c.same v w) : Alike c v w
  | list {items others : List Value} (h : List.Forall₂ (Alike c) items others) :
      Alike c (.list items) (.list others)
  | table {es fs : List (String × Value)}
      (h : ∀ key, Option.Rel (Alike c) (Table.get? es key) (Table.get? fs key)) :
      Alike c (.table es) (.table fs)

variable {c : Comparison}

@[simp] theorem alike_text_iff {s t : String} : Alike c (.text s) (.text t) ↔ s = t := by
  rw [← c.text_iff s t]
  exact ⟨fun | .single h => h, .single⟩

@[simp] theorem alike_bool_iff {a b : Bool} : Alike c (.bool a) (.bool b) ↔ a = b := by
  rw [← c.bool_iff a b]
  exact ⟨fun | .single h => h, .single⟩

@[simp] theorem alike_int_iff {m n : Int} : Alike c (.int m) (.int n) ↔ m = n := by
  rw [← c.int_iff m n]
  exact ⟨fun | .single h => h, .single⟩

theorem alike_list_iff {items others : List Value} :
    Alike c (.list items) (.list others) ↔ List.Forall₂ (Alike c) items others :=
  ⟨fun
    | .single h => absurd h (c.not_list _ _)
    | .list h => h, .list⟩

theorem alike_table_iff {es fs : List (String × Value)} :
    Alike c (.table es) (.table fs) ↔
      ∀ key, Option.Rel (Alike c) (Table.get? es key) (Table.get? fs key) :=
  ⟨fun
    | .single h => absurd h (c.not_table _ _)
    | .table h => h, .table⟩

/-- Lists of texts are alike if they are equal. -/
@[simp] theorem alike_texts_iff {words others : List String} :
    Alike c (.list (words.map .text)) (.list (others.map .text)) ↔ words = others := by
  rw [alike_list_iff, List.forall₂_map_left_iff, List.forall₂_map_right_iff]
  simp only [alike_text_iff, List.forall₂_eq_eq_eq]

@[simp] theorem alike_nil : Alike c (.table []) (.table []) :=
  .table fun _ => .none

/-- Records that begin with the same part are alike if the part is and the rest is. -/
theorem alike_cons_iff {key : String} {v w : Value} {es fs : Table Value}
    (hes : es.get? key = none) (hfs : fs.get? key = none) :
    Alike c (.table ((key, v) :: es)) (.table ((key, w) :: fs)) ↔
      Alike c v w ∧ Alike c (.table es) (.table fs) := by
  simp only [alike_table_iff, Table.get?]
  constructor
  · intro h
    refine ⟨by simpa using h key, fun other => ?_⟩
    by_cases hother : key = other
    · rw [← hother, hes, hfs]
      exact .none
    · simpa [hother] using h other
  · rintro ⟨hfirst, hrest⟩ other
    by_cases hother : key = other
    · simpa [hother] using hfirst
    · simpa [hother] using hrest other

/-- What records that are alike have under a key is alike. -/
theorem Alike.of_get? {es fs : Table Value} (h : Alike c (.table es) (.table fs)) (key : String)
    {v w : Value} (hv : es.get? key = some v) (hw : fs.get? key = some w) : Alike c v w := by
  have hkey := alike_table_iff.1 h key
  rwa [hv, hw, Option.rel_some_some] at hkey

section Written

variable {α : Type} {write : α → Value} {R : α → α → Prop}
  (h : ∀ a b, Alike c (write a) (write b) ↔ R a b)

include h

private theorem rel_map_iff {o o' : Option α} :
    Option.Rel (Alike c) (o.map write) (o'.map write) ↔ Option.Rel R o o' := by
  cases o <;> cases o'
  · exact iff_of_true .none .none
  · exact iff_of_false nofun nofun
  · exact iff_of_false nofun nofun
  · rw [Option.map_some, Option.map_some, Option.rel_some_some, Option.rel_some_some, h]

/-- Tables of records are alike if the records are, key by key. -/
theorem alike_table_map_iff {first second : Table α} :
    Alike c (.table (first.map fun entry => (entry.1, write entry.2)))
        (.table (second.map fun entry => (entry.1, write entry.2))) ↔
      ∀ key, Option.Rel R (first.get? key) (second.get? key) := by
  rw [alike_table_iff]
  refine forall_congr' fun key => ?_
  rw [Table.get?_map, Table.get?_map, rel_map_iff h]

/-- Records whose last part may be left out are alike if that part and the others are. -/
theorem alike_append_iff {key : String} {es fs : Table Value} (hes : es.get? key = none)
    (hfs : fs.get? key = none) {o o' : Option α} :
    Alike c (.table (es ++ (o.map fun a => (key, write a)).toList))
        (.table (fs ++ (o'.map fun a => (key, write a)).toList)) ↔
      Alike c (.table es) (.table fs) ∧ Option.Rel R o o' := by
  have hlast : ∀ (o : Option α) (other : String),
      Table.get? (o.map fun a => (key, write a)).toList other =
        if key = other then o.map write else none := by
    intro o other
    cases o <;> simp [Table.get?]
  simp only [alike_table_iff, Table.get?_append, hlast, ← rel_map_iff h]
  constructor
  · intro hall
    refine ⟨fun other => ?_, by simpa [hes, hfs] using hall key⟩
    by_cases hother : key = other
    · rw [← hother, hes, hfs]
      exact .none
    · simpa [hother] using hall other
  · rintro ⟨hothers, hlasts⟩ other
    by_cases hother : key = other
    · subst hother
      simpa [hes, hfs] using hlasts
    · simpa [hother] using hothers other

end Written

end Value

open Value MakeAtlas.Record

variable {c : Comparison}

/-! ## Tasks that are alike -/

theorem Watch.alike_toValue_iff {w w' : Watch} : Alike c w.toValue w'.toValue ↔ w = w' := by
  obtain ⟨project, runTask, includeDependents, initialRun⟩ := w
  obtain ⟨project', runTask', includeDependents', initialRun'⟩ := w'
  rw [Watch.toValue, Watch.toValue]
  repeat rw [alike_cons_iff rfl rfl]
  simp only [alike_text_iff, alike_bool_iff, alike_nil, and_true, true_and, Watch.mk.injEq]
  -- the command follows from the other parts
  constructor
  · rintro ⟨hproject, hrun, hdependents, hinitial, -⟩
    exact ⟨hproject, hrun, hdependents, hinitial⟩
  · rintro ⟨rfl, rfl, rfl, rfl⟩
    exact ⟨rfl, rfl, rfl, rfl, rfl⟩

theorem Invocation.alike_toValue_iff {i j : Invocation} :
    Alike c i.toValue j.toValue ↔ i = j := by
  cases i with
  | make target folder =>
    cases j with
    | make target' folder' =>
      rw [Invocation.toValue, Invocation.toValue]
      repeat rw [alike_cons_iff rfl rfl]
      simp
    | watch w =>
      refine iff_of_false (fun h => ?_) nofun
      exact absurd (alike_text_iff.1 (h.of_get? "kind" rfl rfl)) (by decide)
  | watch w =>
    cases j with
    | make target folder =>
      refine iff_of_false (fun h => ?_) nofun
      exact absurd (alike_text_iff.1 (h.of_get? "kind" rfl rfl)) (by decide)
    | watch w' =>
      rw [Invocation.watch.injEq]
      exact Watch.alike_toValue_iff

/-- Usage hints that are alike. -/
@[mk_iff]
structure Help.Alike (c : Comparison) (h h' : Help) : Prop where
  command : h.command = h'.command
  sample : ∀ key, Option.Rel (Value.Alike c) (h.sample.get? key) (h'.sample.get? key)

theorem Help.alike_toValue_iff {h h' : Help} :
    Value.Alike c h.toValue h'.toValue ↔ Help.Alike c h h' := by
  rw [Help.toValue, Help.toValue, alike_cons_iff rfl rfl, alike_cons_iff rfl rfl, alike_text_iff,
    alike_table_iff, and_iff_left alike_nil, Help.alike_iff]

/-- What people are told, if it is alike. -/
@[mk_iff]
structure Metadata.Alike (c : Comparison) (m m' : Metadata) : Prop where
  technologies : m.technologies = m'.technologies
  description : m.description = m'.description
  help : Option.Rel (Help.Alike c) m.help m'.help

theorem Metadata.alike_toValue_iff {m m' : Metadata} :
    Value.Alike c m.toValue m'.toValue ↔ Metadata.Alike c m m' := by
  -- a help that is not there is left out of the record
  have hparts : ∀ m : Metadata, m.toValue = .table ([("technologies",
      .list (m.technologies.map .text)), ("description", .text m.description)] ++
      (m.help.map fun help => ("help", help.toValue)).toList) := by
    intro m
    rw [Metadata.toValue]
    cases m.help <;> rfl
  have hhelp : ∀ h h' : Help, Value.Alike c h.toValue h'.toValue ↔ Help.Alike c h h' :=
    fun _ _ => Help.alike_toValue_iff
  rw [hparts, hparts, alike_append_iff hhelp rfl rfl, alike_cons_iff rfl rfl,
    alike_cons_iff rfl rfl, alike_texts_iff, alike_text_iff, and_iff_left alike_nil, and_assoc,
    Metadata.alike_iff]

/-- Tasks that are alike. -/
@[mk_iff]
structure Task.Alike (c : Comparison) (t t' : Task) : Prop where
  name : t.name = t'.name
  invocation : t.invocation = t'.invocation
  dependsOn : t.dependsOn = t'.dependsOn
  metadata : Metadata.Alike c t.metadata t'.metadata

theorem Task.alike_toValue_iff {t t' : Task} :
    Value.Alike c t.toValue t'.toValue ↔ Task.Alike c t t' := by
  rw [Task.toValue, Task.toValue]
  repeat rw [alike_cons_iff rfl rfl]
  rw [alike_text_iff, Invocation.alike_toValue_iff, alike_texts_iff, Metadata.alike_toValue_iff,
    and_iff_left alike_nil, Task.alike_iff]

/-- A task that has been read does not depend on another one twice. -/
theorem Task.nodup_of_read {v : Value} {t : Task} (h : Task.read v = .ok t) :
    t.dependsOn.Nodup := by
  cases v with
  | table es =>
    simp only [Task.read, record, Seq.seq, Functor.map, Reading.both_ok_iff,
      Reading.map_ok_iff] at h
    obtain ⟨_, _, ⟨_, dependsOn, ⟨_, _, ⟨_, -, rfl⟩, -, rfl⟩, hdepends, rfl⟩, -, rfl⟩ := h
    rcases withDefault_eq_ok_iff.1 hdepends with ⟨_, w, -, hw⟩ | ⟨-, rfl⟩
    · exact Task.repeatedDependency_eq_none_iff.1 (Reading.check_eq_ok_iff.1 hw).2
    · exact List.nodup_nil
  | _ => cases h

/-! ## Nodes and dependencies that are alike -/

namespace Node

/-- Nodes that are alike: their tasks are alike key by key, in whatever order they stand. -/
@[mk_iff]
structure Alike (c : Comparison) (n n' : Node) : Prop where
  root : n.root = n'.root
  name : n.name = n'.name
  makefile : n.makefile = n'.makefile
  tasks : ∀ key, Option.Rel (Task.Alike c) (n.tasks.get? key) (n'.tasks.get? key)

/-- The records of two nodes are alike exactly if the nodes are. -/
theorem alike_toValue_iff {n n' : Node} : Value.Alike c n.toValue n'.toValue ↔ Alike c n n' := by
  have hparts : ∀ n : Node, n.toValue = .table [("root", .text n.root), ("name", .text n.name),
      ("makefile", .text n.makefile),
      ("targets", .table (n.tasks.map fun entry => (entry.1, entry.2.toValue)))] := fun _ => rfl
  have htask : ∀ t t' : Task, Value.Alike c t.toValue t'.toValue ↔ Task.Alike c t t' :=
    fun _ _ => Task.alike_toValue_iff
  rw [hparts, hparts]
  repeat rw [alike_cons_iff rfl rfl]
  rw [alike_text_iff, alike_text_iff, alike_text_iff, and_iff_left alike_nil,
    alike_table_map_iff htask, alike_iff]

/-- Nodes that can be read are those that keep the rules. -/
theorem isValid_iff {n : Node} : n.IsValid ↔ ∃ v, Node.read v = .ok n := by
  constructor
  · exact fun h => ⟨n.toValue, read_toValue_iff.2 h⟩
  · rintro ⟨v, hread⟩
    obtain ⟨hparts, hpeers⟩ := Reading.check_eq_ok_iff.1 hread
    refine ⟨?_, unknownPeer_eq_none_iff.1 hpeers⟩
    cases v with
    | table es =>
      simp only [record, Seq.seq, Functor.map, Reading.both_ok_iff, Reading.map_ok_iff] at hparts
      obtain ⟨_, tasks, ⟨_, _, ⟨_, _, ⟨_, -, rfl⟩, -, rfl⟩, -, rfl⟩, htasks, rfl⟩ := hparts
      rcases withDefault_eq_ok_iff.1 htasks with ⟨_, w, -, hw⟩ | ⟨-, rfl⟩
      · intro entry hentry
        obtain ⟨w', htask⟩ := exists_read_of_table_eq_ok hw entry hentry
        exact Task.nodup_of_read htask
      · exact fun _ hentry => absurd hentry List.not_mem_nil
    | _ => cases hparts

end Node

/-- The records of two dependencies are alike exactly if the dependencies are equal. -/
theorem Dependency.alike_toValue_iff {d e : Dependency} :
    Value.Alike c d.toValue e.toValue ↔ d = e := by
  have hparts : ∀ d : Dependency, d.toValue = .table ([("source", .text d.source),
      ("target", .text d.target), ("type", .text "static"), ("sourceFile", .text d.evidence)] ++
      (d.line.map fun n => ("line", .int n)).toList) := by
    intro d
    rw [Dependency.toValue]
    cases d.line <;> rfl
  have hline : ∀ n n' : Nat, Value.Alike c (.int n) (.int n') ↔ n = n' :=
    fun _ _ => alike_int_iff.trans Int.ofNat_inj
  rw [hparts, hparts, alike_append_iff hline rfl rfl]
  repeat rw [alike_cons_iff rfl rfl]
  obtain ⟨source, target, evidence, line, hdistinct, hpos⟩ := d
  obtain ⟨source', target', evidence', line', hdistinct', hpos'⟩ := e
  cases line <;> cases line' <;> simp [and_assoc]

/-! ## What records tell -/

/-- What records tell of nodes and dependencies, if single values are compared in some way. -/
structure RecordsTell (c : Comparison) : Prop where
  /-- A node can be read at all exactly if it keeps the rules, -/
  valid_iff : ∀ n : Node, n.IsValid ↔ ∃ v, Node.read v = .ok n
  /-- and then it is read back from its record, with its tasks in their order. -/
  node_back : ∀ n : Node, n.IsValid → Node.read n.toValue = .ok n
  /-- So is every dependency. -/
  dependency_back : ∀ d : Dependency, Dependency.read d.toValue = .ok d
  /-- No two nodes have the same record, and no two dependencies. -/
  node_eq : ∀ m n : Node, m.IsValid → n.IsValid → m.toValue = n.toValue → m = n
  dependency_eq : ∀ d e : Dependency, d.toValue = e.toValue → d = e
  /-- To those who take what is in a record by its key, two records are alike exactly if the nodes
  or the dependencies are. -/
  node_alike_iff : ∀ m n : Node, Value.Alike c m.toValue n.toValue ↔ Node.Alike c m n
  dependency_alike_iff : ∀ d e : Dependency, Value.Alike c d.toValue e.toValue ↔ d = e

/-- Records tell all there is to nodes and dependencies. -/
theorem records_tell (c : Comparison) : RecordsTell c where
  valid_iff _ := Node.isValid_iff
  node_back _ := Node.read_toValue_iff.2
  dependency_back := Dependency.read_toValue
  node_eq m n hm hn h := by
    have hread := Node.read_toValue_iff.2 hm
    rw [h, Node.read_toValue_iff.2 hn] at hread
    exact (Reading.ok.inj hread).symm
  dependency_eq d e h := by
    have hread := Dependency.read_toValue d
    rw [h, Dependency.read_toValue e] at hread
    exact (Reading.ok.inj hread).symm
  node_alike_iff _ _ := Node.alike_toValue_iff
  dependency_alike_iff _ _ := Dependency.alike_toValue_iff

/-- Truth values count as one and zero. -/
def Value.countingBools : Comparison where
  same
    | .null, .null => True
    | .bool a, .bool b => a = b
    | .bool a, .int n => a.toInt = n
    | .int m, .bool b => m = b.toInt
    | .int m, .int n => m = n
    | .float x, .float y => (x == y) = true
    | .text s, .text t => s = t
    | .moment s, .moment t => s = t
    | _, _ => False
  text_iff _ _ := Iff.rfl
  bool_iff _ _ := Iff.rfl
  int_iff _ _ := Iff.rfl
  not_list _ _ := id
  not_table _ _ := id

/-- A project with a target that has a usage hint, and with a watch. -/
def hinted (sample : Table Value) : Node where
  root := "app"
  name := "app"
  makefile := "app/Makefile"
  tasks := [
    ("build", ⟨"build", .make "all" "app", ["^build"],
      ⟨["make"], "Builds all", some ⟨"make all", sample⟩⟩⟩),
    ("serve", ⟨"serve", .watch { runTask := "build" }, ["build"], { description := "Watches" }⟩)]

/-- An example with nothing in some of its entries. -/
def sparse : Table Value :=
  [("log", .null), ("jobs", .int 1), ("flags", .list [.table [], .null])]

/-- The same example in another order, in which a truth value stands for the one. -/
def sparseReordered : Table Value :=
  [("jobs", .bool true), ("log", .null), ("flags", .list [.table [], .null])]

private theorem alike_sparse :
    Value.Alike countingBools (.table sparse) (.table sparseReordered) := by
  rw [alike_table_iff]
  intro key
  by_cases hlog : "log" = key
  · subst hlog
    exact .some (.single trivial)
  · by_cases hjobs : "jobs" = key
    · subst hjobs
      exact .some (.single rfl)
    · simp only [sparse, sparseReordered, Table.get?, if_neg hlog, if_neg hjobs]
      split
      · exact .some (.list (.cons alike_nil (.cons (.single trivial) .nil)))
      · exact .none

/-- The project is read back, with all that is empty in its example, and it does not matter in which
order the example is written, nor whether a one is written as a truth value. -/
theorem records_tell_hinted : (hinted sparse).IsValid ∧
    Node.read (hinted sparse).toValue = .ok (hinted sparse) ∧
    Value.Alike countingBools (hinted sparse).toValue (hinted sparseReordered).toValue := by
  have hvalid : (hinted sparse).IsValid := by decide +kernel
  have htell := records_tell countingBools
  refine ⟨hvalid, htell.node_back _ hvalid, (htell.node_alike_iff _ _).2 ⟨rfl, rfl, rfl, ?_⟩⟩
  intro key
  simp only [hinted, Table.get?]
  split
  · exact .some ⟨rfl, rfl, rfl, rfl, rfl, .some ⟨rfl, alike_table_iff.1 alike_sparse⟩⟩
  · split
    · exact .some ⟨rfl, rfl, rfl, rfl, rfl, .none⟩
    · exact .none

end MakeAtlas
