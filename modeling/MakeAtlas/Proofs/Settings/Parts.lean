import MakeAtlas.Settings.Basic
import MakeAtlas.Proofs.Record.Parts
import MakeAtlas.Proofs.TableKeys

/-!
# The parts of settings

A settings record is read part by part: each entry belongs to the part whose name it bears, in one
spelling or the other, and a part without an entry has its default. What has been read once is read
again from what is written of it, part by part.

## Key results

- `read_eq_ok_iff`: reading a record in which no part is given twice
- `Setting.read_write`: a part that was read is read back
- `Setting.read_write_get`: so is every part of settings that were read
-/

namespace MakeAtlas

open MakeAtlas.Record

/-- Whether a key names a part, in one spelling or the other. -/
def Record.Part.Spells (part : Part) (key : String) : Prop :=
  key = part.key ∨ key = part.name

instance (part : Part) (key : String) : Decidable (part.Spells key) :=
  inferInstanceAs (Decidable (_ ∨ _))

/-- The parts of settings. -/
inductive Setting where
  | taskPrefix
  | mode
  | maxFiles
  | excludeDirs
  | groupingDirs
  | maxWorkers
  | compilerTimeout
  deriving DecidableEq, Repr

namespace Setting

/-- All parts, in order. -/
def all : List Setting :=
  [taskPrefix, mode, maxFiles, excludeDirs, groupingDirs, maxWorkers, compilerTimeout]

/-- The names of a part. -/
def part : Setting → Part
  | taskPrefix => { key := "targetName", name := "target_name" }
  | mode => { key := "dependencyCompiler", name := "dependency_compiler" }
  | maxFiles => { key := "maxFilesPerProject", name := "max_files_per_project" }
  | excludeDirs => { key := "excludeDirs", name := "exclude_dirs" }
  | groupingDirs => { key := "groupingDirs", name := "grouping_dirs" }
  | maxWorkers => { key := "maxWorkers", name := "max_workers" }
  | compilerTimeout => { key := "compilerTimeout", name := "compiler_timeout" }

/-- What a part may be. -/
abbrev Kind : Setting → Type
  | taskPrefix => Option String
  | mode => ScanMode
  | maxFiles => Option Nat
  | excludeDirs => List String
  | groupingDirs => List String
  | maxWorkers => Nat
  | compilerTimeout => Float

/-- A part of settings. -/
def get : (k : Setting) → Settings → k.Kind
  | taskPrefix, s => s.taskPrefix
  | mode, s => s.mode
  | maxFiles, s => s.maxFiles
  | excludeDirs, s => s.excludeDirs
  | groupingDirs, s => s.groupingDirs
  | maxWorkers, s => s.maxWorkers
  | compilerTimeout, s => s.compilerTimeout

/-- Reads a part. -/
def read : (k : Setting) → Value → Reading k.Kind
  | taskPrefix => nullable Settings.readPrefix
  | mode => Settings.readMode
  | maxFiles => nullable (intBetween 1 none)
  | excludeDirs => Settings.readDirNames
  | groupingDirs => Settings.readDirNames
  | maxWorkers => intBetween 1 (some 64)
  | compilerTimeout => floatBetween 1 600

/-- A part as it is written. -/
def write : (k : Setting) → k.Kind → Value
  | taskPrefix, given => (given.map Value.text).getD .null
  | mode, chosen => .text chosen.name
  | maxFiles, limit => (limit.map fun n : Nat => Value.int n).getD .null
  | excludeDirs, names => .list (names.map .text)
  | groupingDirs, names => .list (names.map .text)
  | maxWorkers, n => .int n
  | compilerTimeout, x => .float x

/-- The settings with given parts. -/
def build (parts : (k : Setting) → k.Kind) : Settings where
  taskPrefix := parts .taskPrefix
  mode := parts .mode
  maxFiles := parts .maxFiles
  excludeDirs := parts .excludeDirs
  groupingDirs := parts .groupingDirs
  maxWorkers := parts .maxWorkers
  compilerTimeout := parts .compilerTimeout

theorem mem_all (k : Setting) : k ∈ all := by
  cases k <;> decide

theorem get_build (parts : (k : Setting) → k.Kind) (k : Setting) :
    k.get (build parts) = parts k := by
  cases k <;> rfl

/-- Settings are known by their parts. -/
theorem eq_of_get_eq {s s' : Settings} (h : ∀ k : Setting, k.get s = k.get s') : s = s' := by
  obtain ⟨taskPrefix, mode, maxFiles, excludeDirs, groupingDirs, maxWorkers, timeout⟩ := s
  obtain ⟨taskPrefix', mode', maxFiles', excludeDirs', groupingDirs', maxWorkers', timeout'⟩ := s'
  congr
  · exact h .taskPrefix
  · exact h .mode
  · exact h .maxFiles
  · exact h .excludeDirs
  · exact h .groupingDirs
  · exact h .maxWorkers
  · exact h .compilerTimeout

/-- No key names two parts. -/
theorem eq_of_spells {k k' : Setting} {key : String} (h : k.part.Spells key)
    (h' : k'.part.Spells key) : k = k' := by
  rcases h with rfl | rfl <;> revert h' <;> cases k <;> cases k' <;> decide

end Setting

/-! ## Entries and parts -/

/-- A record in which every key stands once, and no part is given in both spellings. -/
structure GivenOnce (es : Table Value) : Prop where
  nodup : es.keys.Nodup
  one_spelling : ∀ k : Setting, ¬ (k.part.key ∈ es.keys ∧ k.part.name ∈ es.keys)

/-- Where no part is given twice, what is found for a part is the entry that names it. -/
theorem find?_eq_some_iff {es : Table Value} (once : GivenOnce es) {k : Setting} {key : String}
    {v : Value} : k.part.find? es = some (key, v) ↔ (key, v) ∈ es ∧ k.part.Spells key := by
  unfold Part.find?
  constructor
  · intro h
    cases hkey : es.get? k.part.key with
    | some found =>
      rw [hkey] at h
      cases h
      exact ⟨Table.mem_of_get? hkey, Or.inl rfl⟩
    | none =>
      rw [hkey] at h
      obtain ⟨found, hfound, h⟩ := Option.map_eq_some_iff.1 h
      cases h
      exact ⟨Table.mem_of_get? hfound, Or.inr rfl⟩
  · rintro ⟨hmem, rfl | rfl⟩
    · rw [(Table.get?_eq_some_iff_mem once.nodup).2 hmem]
    · -- the other spelling has no entry, or the part would be given twice
      have hkeyNone : es.get? k.part.key = none := by
        rw [Option.eq_none_iff_forall_ne_some]
        intro found hfound
        exact once.one_spelling k ⟨List.mem_map_of_mem (Table.mem_of_get? hfound),
          List.mem_map_of_mem hmem⟩
      rw [hkeyNone, (Table.get?_eq_some_iff_mem once.nodup).2 hmem]
      rfl

theorem find?_eq_none_iff {es : Table Value} (once : GivenOnce es) {k : Setting} :
    k.part.find? es = none ↔ ∀ entry ∈ es, ¬ k.part.Spells entry.1 := by
  rw [Option.eq_none_iff_forall_ne_some]
  constructor
  · intro h entry hentry hspells
    exact h entry ((find?_eq_some_iff once).2 ⟨hentry, hspells⟩)
  · intro h entry hfind
    obtain ⟨hentry, hspells⟩ := (find?_eq_some_iff once).1 hfind
    exact h entry hentry hspells

/-- Where no part is given twice, nothing else is in a record if every entry names a part. -/
theorem noOtherKeys_eq_ok_iff {es : Table Value} (once : GivenOnce es) :
    noOtherKeys es Settings.parts = .ok () ↔
      ∀ entry ∈ es, ∃ k : Setting, k.part.Spells entry.1 := by
  have hparts : Settings.parts = Setting.all.map Setting.part := rfl
  have hused : ∀ entry ∈ es, entry.1 ∈ Settings.parts.filterMap
      (fun part => (part.find? es).map Prod.fst) ↔ ∃ k : Setting, k.part.Spells entry.1 := by
    intro entry hentry
    simp only [hparts, List.mem_filterMap, List.mem_map, Option.map_eq_some_iff]
    constructor
    · rintro ⟨_, ⟨k, -, rfl⟩, found, hfound, hkey⟩
      exact ⟨k, hkey ▸ ((find?_eq_some_iff once).1 hfound).2⟩
    · rintro ⟨k, hspells⟩
      exact ⟨_, ⟨k, k.mem_all, rfl⟩, entry, (find?_eq_some_iff once).2 ⟨hentry, hspells⟩, rfl⟩
  have hfilter : noOtherKeys es Settings.parts = .ok () ↔ (es.filter fun entry =>
      !(Settings.parts.filterMap fun part => (part.find? es).map Prod.fst).contains entry.1) =
        [] := by
    simp only [noOtherKeys]
    split
    · next hnone => exact iff_of_true rfl hnone
    · next hsome => exact iff_of_false nofun hsome
  rw [hfilter, List.filter_eq_nil_iff]
  refine forall₂_congr fun entry hentry => ?_
  rw [Bool.not_eq_true, Bool.not_eq_false', List.contains_iff_mem, hused entry hentry]

namespace Settings

/-- The entries of a record are read as parts of settings, and all other parts have their
    defaults. -/
structure IsReadFrom (es : Table Value) (s : Settings) : Prop where
  given : ∀ entry ∈ es, ∃ k : Setting, k.part.Spells entry.1 ∧ k.read entry.2 = .ok (k.get s)
  absent : ∀ k : Setting, (∀ entry ∈ es, ¬ k.part.Spells entry.1) → k.get s = k.get {}

/-- A record is read as settings if each part is, and nothing else is in it. -/
private theorem read_table_eq_ok_iff {es : Table Value} {s : Settings} :
    read (.table es) = .ok s ↔
      (∀ k : Setting, withDefault es k.part (k.get {}) k.read = .ok (k.get s)) ∧
        noOtherKeys es parts = .ok () := by
  obtain ⟨taskPrefix, mode, maxFiles, excludeDirs, groupingDirs, maxWorkers, timeout⟩ := s
  have hparts : read (.table es) = Reading.both (Reading.both (Reading.both (Reading.both
      (Reading.both (Reading.both (Reading.both (Reading.map (fun p m f e g w t _ =>
        Settings.mk p m f e g w t)
        (withDefault es (Setting.part .taskPrefix) none (Setting.read .taskPrefix)))
        (withDefault es (Setting.part .mode) (.compiler .gcc) (Setting.read .mode)))
        (withDefault es (Setting.part .maxFiles) none (Setting.read .maxFiles)))
        (withDefault es (Setting.part .excludeDirs) Workspace.defaultExcludeDirs
          (Setting.read .excludeDirs)))
        (withDefault es (Setting.part .groupingDirs) Project.defaultGroupingDirs
          (Setting.read .groupingDirs)))
        (withDefault es (Setting.part .maxWorkers) 8 (Setting.read .maxWorkers)))
        (withDefault es (Setting.part .compilerTimeout) 60.0 (Setting.read .compilerTimeout)))
        (noOtherKeys es parts) := rfl
  rw [hparts]
  simp only [Reading.both_ok_iff, Reading.map_ok_iff]
  constructor
  · rintro ⟨_, _, ⟨_, t, ⟨_, w, ⟨_, g, ⟨_, e, ⟨_, f, ⟨_, m, ⟨p, hp, rfl⟩, hm, rfl⟩, hf, rfl⟩, he,
      rfl⟩, hg, rfl⟩, hw, rfl⟩, ht, rfl⟩, hothers, hs⟩
    cases hs
    refine ⟨fun k => ?_, hothers⟩
    cases k <;> assumption
  · rintro ⟨hk, hothers⟩
    exact ⟨_, _, ⟨_, _, ⟨_, _, ⟨_, _, ⟨_, _, ⟨_, _, ⟨_, _, ⟨_, hk .taskPrefix, rfl⟩, hk .mode, rfl⟩,
      hk .maxFiles, rfl⟩, hk .excludeDirs, rfl⟩, hk .groupingDirs, rfl⟩, hk .maxWorkers, rfl⟩,
      hk .compilerTimeout, rfl⟩, hothers, rfl⟩

/-- A record in which no part is given twice is read as settings exactly if its entries are. -/
theorem read_eq_ok_iff {es : Table Value} (once : GivenOnce es) {s : Settings} :
    read (.table es) = .ok s ↔ IsReadFrom es s := by
  rw [read_table_eq_ok_iff, noOtherKeys_eq_ok_iff once]
  simp only [withDefault_eq_ok_iff, find?_eq_some_iff once, find?_eq_none_iff once]
  constructor
  · rintro ⟨hk, hknown⟩
    constructor
    · intro entry hentry
      obtain ⟨k, hspells⟩ := hknown entry hentry
      refine ⟨k, hspells, ?_⟩
      rcases hk k with ⟨key, v, ⟨hmem, hkey⟩, hread⟩ | ⟨hnone, -⟩
      · -- two entries of one part are one
        have hfound := (find?_eq_some_iff once).2 ⟨hmem, hkey⟩
        rw [(find?_eq_some_iff once).2 ⟨hentry, hspells⟩] at hfound
        cases hfound
        exact hread
      · exact absurd hspells (hnone entry hentry)
    · intro k hnone
      rcases hk k with ⟨key, v, ⟨hmem, hkey⟩, -⟩ | ⟨-, hdefault⟩
      · exact absurd hkey (hnone _ hmem)
      · exact hdefault.symm
  · intro h
    refine ⟨fun k => ?_, fun entry hentry => (h.given entry hentry).imp fun _ hk => hk.1⟩
    by_cases hnone : ∀ entry ∈ es, ¬ k.part.Spells entry.1
    · exact Or.inr ⟨hnone, (h.absent k hnone).symm⟩
    · simp only [not_forall, not_not] at hnone
      obtain ⟨entry, hentry, hspells⟩ := hnone
      obtain ⟨k', hspells', hread⟩ := h.given entry hentry
      rw [Setting.eq_of_spells hspells' hspells] at hread
      exact Or.inl ⟨entry.1, entry.2, ⟨hentry, hspells⟩, hread⟩

end Settings

/-! ## What has been read is read again -/

section ReadBack

/-- A text without blanks and colons stays as it is when it is read as a prefix. -/
private theorem readPrefix_eq_ok {cs : List Char} (h : Settings.isTaskPrefix cs = true) :
    Settings.readPrefix (.text (String.ofList cs)) = .ok (String.ofList cs) := by
  have hblank : ∀ c ∈ cs, Text.isBlank c = false := by
    intro c hc
    simp only [Settings.isTaskPrefix, Bool.and_eq_true, Bool.not_eq_true', List.any_eq_false,
      Bool.or_eq_true, not_or, Bool.not_eq_true] at h
    exact (h.2 c hc).2
  have htrim : Text.trim cs = cs := Text.trim_eq_self
    (fun c hc => hblank c (List.mem_of_mem_head? hc))
    fun c hc => hblank c (List.mem_of_mem_getLast? hc)
  simp [Settings.readPrefix, text, Reading.andThen, htrim, h]

/-- What was read as a prefix is one. -/
theorem isTaskPrefix_of_readPrefix {v : Value} {given : String}
    (h : Settings.readPrefix v = .ok given) : Settings.isTaskPrefix given.toList = true := by
  obtain ⟨written, -, h⟩ := Reading.andThen_ok_iff.1 h
  dsimp only at h
  split at h
  · next hprefix =>
    cases h
    rwa [String.toList_ofList]
  · cases h

/-- A prefix that was read is read back. -/
private theorem readPrefix_text {v : Value} {given : String}
    (h : Settings.readPrefix v = .ok given) : Settings.readPrefix (.text given) = .ok given := by
  have hread := readPrefix_eq_ok (isTaskPrefix_of_readPrefix h)
  rwa [String.ofList_toList] at hread

/-- A number that was read within bounds is read back. -/
private theorem intBetween_int {low n : Nat} {high : Option Nat} {v : Value}
    (h : intBetween low high v = .ok n) : intBetween low high (.int n) = .ok n := by
  obtain ⟨m, -, h⟩ := Reading.andThen_ok_iff.1 h
  split at h
  · cases h
  · next hhigh =>
    split at h
    · cases h
    · next hlow =>
      cases h
      have hm : ((m.toNat : Nat) : Int) = m := Int.toNat_of_nonneg (by omega)
      simp only [intBetween, int, Reading.andThen, hm, hhigh, if_neg hlow]

/-- A number that was read within bounds is read back. -/
private theorem floatBetween_float {low high : Nat} {x : Float} {v : Value}
    (h : floatBetween low high v = .ok x) : floatBetween low high (.float x) = .ok x := by
  obtain ⟨y, -, h⟩ := Reading.andThen_ok_iff.1 h
  split at h
  · cases h
  · next hhigh =>
    split at h
    · cases h
    · next hlow =>
      cases h
      simp only [floatBetween, float, Reading.andThen, if_neg hhigh, if_neg hlow]

/-- Names of folders that were read are read back. -/
private theorem readDirNames_list {v : Value} {names : List String}
    (h : Settings.readDirNames v = .ok names) :
    Settings.readDirNames (.list (names.map .text)) = .ok names := by
  obtain ⟨read, hread, h⟩ := Reading.andThen_ok_iff.1 h
  have hrule : Settings.badDirName names = none := by
    split at h
    · cases h
    · next hnone =>
      cases h
      exact hnone
  rw [Settings.readDirNames, list_text_eq_ok]
  exact Reading.check_ok_iff.2 ⟨hrule, rfl⟩

/-- What may be absent is read back if it is whenever it is there. -/
private theorem nullable_write {α : Type} {read : Value → Reading α} (write : α → Value)
    (hnull : ∀ a, write a ≠ .null) {v : Value}
    (hread : ∀ a, read v = .ok a → read (write a) = .ok a) {given : Option α}
    (h : nullable read v = .ok given) :
    nullable read ((given.map write).getD .null) = .ok given := by
  cases given with
  | none => rfl
  | some a =>
    have hv : read v = .ok a := by
      unfold nullable at h
      split at h
      · cases h
      · obtain ⟨b, hb, hab⟩ := Reading.map_ok_iff.1 h
        cases hab
        exact hb
    rw [Option.map_some, Option.getD_some]
    unfold nullable
    split
    · next hwrite => exact absurd hwrite (hnull a)
    · exact Reading.map_ok_iff.2 ⟨a, hread a hv, rfl⟩

end ReadBack

namespace Setting

/-- A part that was read is read back. -/
theorem read_write {k : Setting} {v : Value} {a : k.Kind} (h : k.read v = .ok a) :
    k.read (k.write a) = .ok a := by
  cases k with
  | taskPrefix => exact nullable_write .text (fun _ => nofun) (fun _ => readPrefix_text) h
  | mode =>
    obtain ⟨compiler⟩ | _ := a
    · cases compiler <;> rfl
    · rfl
  | maxFiles =>
    exact nullable_write (fun n : Nat => .int n) (fun _ => nofun) (fun _ => intBetween_int) h
  | excludeDirs => exact readDirNames_list h
  | groupingDirs => exact readDirNames_list h
  | maxWorkers => exact intBetween_int h
  | compilerTimeout => exact floatBetween_float h

/-- So is its default. -/
theorem read_write_default (k : Setting) : k.read (k.write (k.get {})) = .ok (k.get {}) := by
  cases k <;> rfl

/-- Every part of settings that were read is read back. -/
theorem read_write_get {v : Value} {s : Settings} (h : Settings.read v = .ok s) (k : Setting) :
    k.read (k.write (k.get s)) = .ok (k.get s) := by
  cases v with
  | table es =>
    rcases withDefault_eq_ok_iff.1 ((Settings.read_table_eq_ok_iff.1 h).1 k) with
      ⟨_, v, -, hread⟩ | ⟨-, hdefault⟩
    · exact read_write hread
    · rw [← hdefault]
      exact k.read_write_default
  | _ => cases h

end Setting

end MakeAtlas
