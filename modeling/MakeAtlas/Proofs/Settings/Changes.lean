import MakeAtlas.Proofs.Settings.Parts

/-!
# Settings rewritten, respelled and changed

Settings that were read are read again from their record. How the keys of a record are spelled makes
no difference, and parts set anew leave the others alone.

## Key results

- `read_complete_iff`: reading a record with an entry for every part
- `read_respelled_iff`: reading a record in other spellings
- `override_eq_ok_iff`: what becomes of settings whose parts are set anew
- `settings_kept`: settings survive being written, respelled and changed elsewhere
-/

namespace MakeAtlas

open MakeAtlas.Record

/-- A part becomes something under a value if it is that in settings where only it is given. -/
def Setting.Becomes (k : Setting) (v : Value) (a : k.Kind) : Prop :=
  ∃ s, parse Settings.title Settings.read (.table [(k.part.name, v)]) = .ok s ∧ k.get s = a

/-- Two records with the same values, in which each key names the same part as the other. -/
def Respelled (es es' : Table Value) : Prop :=
  List.Forall₂ (fun entry entry' => entry.2 = entry'.2 ∧
    ∀ k : Setting, k.part.Spells entry.1 ↔ k.part.Spells entry'.1) es es'

namespace Settings

theorem parse_eq_ok_iff {v : Value} {s : Settings} :
    parse title read v = .ok s ↔ read v = .ok s := by
  rw [parse]
  cases read v <;> simp

/-! ## Complete records -/

/-- The spellings in which a record can be written. -/
def IsSpelling (nameOf : Part → String) : Prop :=
  nameOf = Part.key ∨ nameOf = Part.name

theorem spells_of_isSpelling {nameOf : Part → String} (h : IsSpelling nameOf) (part : Part) :
    part.Spells (nameOf part) := by
  rcases h with rfl | rfl
  · exact Or.inl rfl
  · exact Or.inr rfl

theorem recordBy_eq_map (s : Settings) (nameOf : Part → String) :
    s.recordBy nameOf = Setting.all.map fun k => (nameOf k.part, k.write (k.get s)) := by
  obtain ⟨_, _, maxFiles, _, _, _, _⟩ := s
  cases maxFiles <;> rfl

theorem keys_recordBy (s : Settings) (nameOf : Part → String) :
    (s.recordBy nameOf).keys = Setting.all.map fun k => nameOf k.part :=
  rfl

/-- A record with an entry for every part, in one spelling, gives no part twice. -/
theorem givenOnce_of_keys {nameOf : Part → String} (h : IsSpelling nameOf) {es : Table Value}
    (hkeys : es.keys = Setting.all.map fun k => nameOf k.part) : GivenOnce es := by
  constructor
  · rw [hkeys]
    rcases h with rfl | rfl <;> decide
  · intro k
    rw [hkeys]
    rcases h with rfl | rfl <;> cases k <;> decide

/-- A record with an entry for every part is read as settings exactly if each entry is read as its
    part. -/
theorem read_complete_iff {nameOf : Part → String} (h : IsSpelling nameOf) {es : Table Value}
    (hkeys : es.keys = Setting.all.map fun k => nameOf k.part) {s : Settings} :
    read (.table es) = .ok s ↔
      ∀ (k : Setting) (v : Value), es.get? (nameOf k.part) = some v → k.read v = .ok (k.get s) := by
  have once := givenOnce_of_keys h hkeys
  rw [read_eq_ok_iff once]
  constructor
  · intro hs k v hv
    obtain ⟨k', hspells, hread⟩ := hs.given _ (Table.mem_of_get? hv)
    rw [← Setting.eq_of_spells hspells (spells_of_isSpelling h k.part)]
    exact hread
  · intro hall
    constructor
    · rintro ⟨key, v⟩ hentry
      have hkey : key ∈ es.keys := List.mem_map_of_mem hentry
      rw [hkeys] at hkey
      obtain ⟨k, -, rfl⟩ := List.mem_map.1 hkey
      exact ⟨k, spells_of_isSpelling h k.part,
        hall k v ((Table.get?_eq_some_iff_mem once.nodup).2 hentry)⟩
    · intro k hnone
      have hkey : nameOf k.part ∈ es.keys := by
        rw [hkeys]
        exact List.mem_map_of_mem k.mem_all
      obtain ⟨entry, hentry, hname⟩ := List.mem_map.1 hkey
      exact absurd (hname ▸ spells_of_isSpelling h k.part) (hnone entry hentry)

theorem get?_recordBy (s : Settings) {nameOf : Part → String} (h : IsSpelling nameOf)
    (k : Setting) : (s.recordBy nameOf).get? (nameOf k.part) = some (k.write (k.get s)) := by
  rw [Table.get?_eq_some_iff_mem (givenOnce_of_keys h (s.keys_recordBy nameOf)).nodup,
    recordBy_eq_map]
  exact List.mem_map_of_mem k.mem_all

/-- Settings that were read are read back from their record, in either spelling. -/
theorem read_recordBy {v : Value} {s : Settings} (h : read v = .ok s) {nameOf : Part → String}
    (hname : IsSpelling nameOf) : read (.table (s.recordBy nameOf)) = .ok s := by
  rw [read_complete_iff hname (s.keys_recordBy nameOf)]
  intro k w hw
  rw [s.get?_recordBy hname k] at hw
  cases hw
  exact Setting.read_write_get h k

/-! ## Other spellings -/

/-- Every entry of a respelled record is an entry of the other one, respelled. -/
private theorem exists_of_mem_respelled {es es' : Table Value} (h : Respelled es es')
    {entry' : String × Value} (hentry' : entry' ∈ es') :
    ∃ entry ∈ es, entry.2 = entry'.2 ∧
      ∀ k : Setting, k.part.Spells entry.1 ↔ k.part.Spells entry'.1 := by
  induction h with
  | nil => cases hentry'
  | cons hfirst _ ih =>
    rcases List.mem_cons.1 hentry' with rfl | hrest
    · exact ⟨_, List.mem_cons_self, hfirst⟩
    · obtain ⟨entry, hentry, hsame⟩ := ih hrest
      exact ⟨entry, List.mem_cons_of_mem _ hentry, hsame⟩

private theorem respelled_symm {es es' : Table Value} (h : Respelled es es') : Respelled es' es :=
  (List.Forall₂.imp (fun _ _ hsame => ⟨hsame.1.symm, fun k => (hsame.2 k).symm⟩) h).flip

private theorem isReadFrom_of_respelled {es es' : Table Value} (h : Respelled es es')
    {s : Settings} (hs : IsReadFrom es s) : IsReadFrom es' s := by
  constructor
  · intro entry' hentry'
    obtain ⟨entry, hentry, hvalue, hspells⟩ := exists_of_mem_respelled h hentry'
    obtain ⟨k, hk, hread⟩ := hs.given entry hentry
    exact ⟨k, (hspells k).1 hk, hvalue ▸ hread⟩
  · intro k hnone'
    refine hs.absent k fun entry hentry hk => ?_
    obtain ⟨entry', hentry', -, hspells⟩ := exists_of_mem_respelled (respelled_symm h) hentry
    exact hnone' entry' hentry' ((hspells k).2 hk)

/-- A record is read as the same settings, or as none, in whichever spellings its keys are. -/
theorem read_respelled_iff {es es' : Table Value} (once : GivenOnce es) (once' : GivenOnce es')
    (h : Respelled es es') {s : Settings} :
    read (.table es) = .ok s ↔ read (.table es') = .ok s := by
  rw [read_eq_ok_iff once, read_eq_ok_iff once']
  exact ⟨isReadFrom_of_respelled h, isReadFrom_of_respelled (respelled_symm h)⟩

/-! ## Parts set anew -/

/-- A part becomes under a value what the value is read as. -/
theorem becomes_iff {k : Setting} {v : Value} {a : k.Kind} :
    k.Becomes v a ↔ k.read v = .ok a := by
  have once : GivenOnce [(k.part.name, v)] := by
    constructor
    · exact List.pairwise_singleton _ _
    · rintro k' ⟨hkey, -⟩
      have hsame : k'.part.key = k.part.name := List.mem_singleton.1 hkey
      revert hsame
      cases k <;> cases k' <;> decide
  unfold Setting.Becomes
  simp only [parse_eq_ok_iff, read_eq_ok_iff once]
  constructor
  · rintro ⟨s, hs, rfl⟩
    obtain ⟨k', hspells, hread⟩ := hs.given _ List.mem_cons_self
    rw [← Setting.eq_of_spells hspells (Or.inr rfl)]
    exact hread
  · intro hread
    refine ⟨Setting.build (Function.update (fun k' => k'.get {}) k a), ⟨?_, ?_⟩, ?_⟩
    · rintro entry hentry
      cases List.mem_singleton.1 hentry
      refine ⟨k, Or.inr rfl, ?_⟩
      rw [Setting.get_build, Function.update_self]
      exact hread
    · intro k' hnone
      have hne : k' ≠ k := by
        rintro rfl
        exact hnone _ List.mem_cons_self (Or.inr rfl)
      rw [Setting.get_build, Function.update_of_ne hne]
    · rw [Setting.get_build, Function.update_self]

/-- The changes that count: those that do not set a part to nothing. -/
def given (changes : Table Value) : Table Value :=
  changes.filter fun change =>
    match change.2 with
    | .null => false
    | _ => true

theorem mem_given_iff {changes : Table Value} {change : String × Value} :
    change ∈ given changes ↔ change ∈ changes ∧ change.2 ≠ .null := by
  obtain ⟨key, v⟩ := change
  rw [given, List.mem_filter]
  cases v <;> simp

/-- Changes of parts by their names, none of them twice. -/
structure IsByName (changes : Table Value) : Prop where
  nodup : changes.keys.Nodup
  named : ∀ change ∈ changes, ∃ k : Setting, change.1 = k.part.name

/-- What parts of settings become when some are set anew. -/
structure SetAnew (s : Settings) (changes : Table Value) (s' : Settings) : Prop where
  /-- What is set to something becomes that. -/
  set : ∀ (k : Setting) (v : Value), (k.part.name, v) ∈ changes → v ≠ .null →
    k.Becomes v (k.get s')
  /-- Everything else stays as it is. -/
  kept : ∀ k : Setting, (∀ v, (k.part.name, v) ∈ changes → v = .null) → k.get s' = k.get s

section Override

variable {s : Settings} {v : Value} {changes : Table Value}

/-- What a part is read from when some are set anew. -/
private def source (s : Settings) (changes : Table Value) (k : Setting) : Value :=
  ((given changes).get? k.part.name).getD (k.write (k.get s))

private theorem nodup_keys_given (byName : IsByName changes) : (given changes).keys.Nodup :=
  List.Nodup.sublist (List.filter_sublist.map _) byName.nodup

private theorem source_of_mem (byName : IsByName changes) {k : Setting} {v : Value}
    (hmem : (k.part.name, v) ∈ changes) (hv : v ≠ .null) : source s changes k = v := by
  rw [source, (Table.get?_eq_some_iff_mem (nodup_keys_given byName)).2
    (mem_given_iff.2 ⟨hmem, hv⟩)]
  rfl

private theorem source_of_null {k : Setting} (h : ∀ v, (k.part.name, v) ∈ changes → v = .null) :
    source s changes k = k.write (k.get s) := by
  have hnone : (given changes).get? k.part.name = none := by
    rw [Option.eq_none_iff_forall_ne_some]
    intro v hv
    obtain ⟨hmem, hnull⟩ := mem_given_iff.1 (Table.mem_of_get? hv)
    exact hnull (h v hmem)
  rw [source, hnone]
  rfl

/-- Where parts are changed by their names, nothing but the changes that count matters. -/
private theorem override_eq (byName : IsByName changes) :
    s.override changes = if (given changes).isEmpty then .ok s
      else (parse title read (.table ((s.recordBy Part.name).putAll (given changes)))).mapError
        .invalid := by
  have hown : changes.has ownName = false := by
    rw [Bool.eq_false_iff, ne_eq, Table.has_eq_true_iff]
    intro hmem
    obtain ⟨change, hchange, hname⟩ := List.mem_map.1 hmem
    obtain ⟨k, hk⟩ := byName.named change hchange
    rw [hk] at hname
    revert hname
    cases k <;> decide
  show (if changes.has ownName then _ else _) = _
  rw [if_neg (by rw [hown]; exact Bool.false_ne_true)]
  rfl

/-- The record of settings with the changes that count is read part by part. -/
private theorem read_changed_iff (byName : IsByName changes) {s' : Settings} :
    read (.table ((s.recordBy Part.name).putAll (given changes))) = .ok s' ↔
      ∀ k : Setting, k.read (source s changes k) = .ok (k.get s') := by
  have hknown : ∀ change ∈ given changes, change.1 ∈ (s.recordBy Part.name).keys := by
    intro change hchange
    obtain ⟨k, hk⟩ := byName.named change (mem_given_iff.1 hchange).1
    rw [hk, s.keys_recordBy Part.name]
    exact List.mem_map_of_mem k.mem_all
  have hkeys := (Table.keys_putAll_of_mem hknown).trans (s.keys_recordBy Part.name)
  rw [read_complete_iff (Or.inr rfl) hkeys]
  refine forall_congr' fun k => ?_
  have hget : ((s.recordBy Part.name).putAll (given changes)).get? k.part.name =
      some (source s changes k) := by
    rw [Table.get?_putAll (nodup_keys_given byName), s.get?_recordBy (Or.inr rfl) k, source]
    cases (given changes).get? k.part.name <;> rfl
  rw [hget]
  simp

/-- Settings with parts set anew are those whose parts are read from what they are set to, or else
    from what is written of them. -/
private theorem override_eq_ok_iff_source (accepted : read v = .ok s) (byName : IsByName changes)
    {s' : Settings} :
    s.override changes = .ok s' ↔ ∀ k : Setting, k.read (source s changes k) = .ok (k.get s') := by
  rw [override_eq byName]
  by_cases hempty : (given changes).isEmpty
  · -- nothing is set, so every part is read from what is written of it
    have hsource : ∀ k, source s changes k = k.write (k.get s) := by
      intro k
      rw [source, List.isEmpty_iff.1 hempty]
      rfl
    rw [if_pos hempty]
    simp only [hsource, Setting.read_write_get accepted]
    constructor
    · rintro hs k
      cases hs
      rfl
    · intro h
      exact congrArg Except.ok (Setting.eq_of_get_eq fun k => Reading.ok.inj (h k))
  · rw [if_neg hempty, ← read_changed_iff byName, ← parse_eq_ok_iff]
    cases parse title read (.table ((s.recordBy Part.name).putAll (given changes))) <;>
      simp [Except.mapError]

/-- Settings with parts set anew are known by what the parts are set to and by what is kept. -/
theorem override_eq_ok_iff (accepted : read v = .ok s) (byName : IsByName changes)
    {s' : Settings} : s.override changes = .ok s' ↔ SetAnew s changes s' := by
  rw [override_eq_ok_iff_source accepted byName]
  constructor
  · intro h
    constructor
    · intro k v hmem hv
      rw [becomes_iff, ← source_of_mem byName hmem hv]
      exact h k
    · intro k hnull
      have hk := h k
      rw [source_of_null hnull, Setting.read_write_get accepted] at hk
      exact (Reading.ok.inj hk).symm
  · intro h k
    by_cases hnull : ∀ v, (k.part.name, v) ∈ changes → v = .null
    · rw [source_of_null hnull, Setting.read_write_get accepted, h.kept k hnull]
    · simp only [not_forall] at hnull
      obtain ⟨v, hmem, hv⟩ := hnull
      rw [source_of_mem byName hmem hv]
      exact becomes_iff.1 (h.set k v hmem hv)

/-- Setting parts anew fails exactly if one of them can become nothing under what it is set to. -/
theorem override_eq_error_iff (accepted : read v = .ok s) (byName : IsByName changes) :
    (∃ e, s.override changes = .error e) ↔
      ∃ (k : Setting) (v : Value), (k.part.name, v) ∈ changes ∧ v ≠ .null ∧
        ∀ a, ¬ k.Becomes v a := by
  constructor
  · rintro ⟨e, he⟩
    by_contra hvalid
    -- each part has something to become, so there are settings that have all of it
    have hread : ∀ k : Setting, ∃ a, k.read (source s changes k) = .ok a := by
      intro k
      by_cases hnull : ∀ v, (k.part.name, v) ∈ changes → v = .null
      · rw [source_of_null hnull]
        exact ⟨_, Setting.read_write_get accepted k⟩
      · simp only [not_forall] at hnull
        obtain ⟨v, hmem, hv⟩ := hnull
        rw [source_of_mem byName hmem hv]
        by_contra hnone
        exact hvalid ⟨k, v, hmem, hv, fun a ha => hnone ⟨a, becomes_iff.1 ha⟩⟩
    choose part hpart using hread
    have hok : s.override changes = .ok (Setting.build part) := by
      rw [override_eq_ok_iff_source accepted byName]
      intro k
      rw [Setting.get_build]
      exact hpart k
    rw [hok] at he
    cases he
  · rintro ⟨k, v, hmem, hv, hnone⟩
    cases hs : s.override changes with
    | error e => exact ⟨e, rfl⟩
    | ok s' =>
      have h := (override_eq_ok_iff accepted byName).1 hs
      exact absurd (h.set k v hmem hv) (hnone _)

end Override

/-- Settings that were read are read back from their record, in either spelling. No record is read
    as anything else because its keys are spelled another way. And parts are set anew unless one of
    them, that is not set to nothing, cannot be what it is set to: each becomes what it is set to,
    and all others stay as they are. -/
theorem settings_kept {v : Value} {s : Settings} (accepted : parse title read v = .ok s) :
    (∀ nameOf, IsSpelling nameOf → parse title read (.table (s.recordBy nameOf)) = .ok s) ∧
      (∀ es es', GivenOnce es → GivenOnce es' → Respelled es es' →
        ∀ s', parse title read (.table es) = .ok s' ↔ parse title read (.table es') = .ok s') ∧
      ∀ changes, IsByName changes →
        ((∃ e, s.override changes = .error e) ↔
          ∃ (k : Setting) (v : Value), (k.part.name, v) ∈ changes ∧ v ≠ .null ∧
            ∀ a, ¬ k.Becomes v a) ∧
        ∀ s', s.override changes = .ok s' → SetAnew s changes s' := by
  rw [parse_eq_ok_iff] at accepted
  refine ⟨?_, ?_, ?_⟩
  · intro nameOf hname
    exact parse_eq_ok_iff.2 (read_recordBy accepted hname)
  · intro es es' once once' h s'
    rw [parse_eq_ok_iff, parse_eq_ok_iff]
    exact read_respelled_iff once once' h
  · intro changes byName
    exact ⟨override_eq_error_iff accepted byName,
      fun s' => (override_eq_ok_iff accepted byName).1⟩

/-- A record in both kinds of spelling, with values that are not yet as they are kept. -/
private def loose : Table Value :=
  [("target_name", .text " app "), ("maxWorkers", .text "4")]

/-- The same record, with every key spelled the other way. -/
private def looseRespelled : Table Value :=
  [("targetName", .text " app "), ("max_workers", .text "4")]

private def looseRead : Settings :=
  { taskPrefix := some "app", maxWorkers := 4 }

private theorem read_loose : parse title read (.table loose) = .ok looseRead := by
  rfl

private theorem respelled_loose : Respelled loose looseRespelled :=
  .cons ⟨rfl, fun k => by cases k <;> decide⟩ (.cons ⟨rfl, fun k => by cases k <;> decide⟩ .nil)

private theorem givenOnce_loose : GivenOnce loose ∧ GivenOnce looseRespelled :=
  ⟨⟨by decide, fun k => by cases k <;> decide⟩, ⟨by decide, fun k => by cases k <;> decide⟩⟩

/-- One part set anew, and one set to nothing. -/
private def moreWorkers (n : Int) : Table Value :=
  [("max_workers", .int n), ("target_name", .null)]

private theorem isByName_moreWorkers (n : Int) : IsByName (moreWorkers n) where
  nodup := by show ["max_workers", "target_name"].Nodup; decide
  named := by
    intro change hchange
    rcases List.mem_cons.1 hchange with rfl | hchange
    · exact ⟨.maxWorkers, rfl⟩
    · cases List.mem_singleton.1 hchange
      exact ⟨.taskPrefix, rfl⟩

theorem settings_kept_loose :
    parse title read (.table (looseRead.recordBy Part.key)) = .ok looseRead ∧
      parse title read (.table (looseRead.recordBy Part.name)) = .ok looseRead ∧
      parse title read (.table looseRespelled) = .ok looseRead ∧
      looseRead.override (moreWorkers 9) = .ok { looseRead with maxWorkers := 9 } ∧
      SetAnew looseRead (moreWorkers 9) { looseRead with maxWorkers := 9 } ∧
      ∃ e, looseRead.override (moreWorkers 65) = .error e := by
  obtain ⟨hwritten, hrespelled, hchanged⟩ := settings_kept read_loose
  have hmore : looseRead.override (moreWorkers 9) = .ok { looseRead with maxWorkers := 9 } := rfl
  refine ⟨hwritten _ (Or.inl rfl), hwritten _ (Or.inr rfl), ?_, hmore, ?_, ?_⟩
  · exact (hrespelled _ _ givenOnce_loose.1 givenOnce_loose.2 respelled_loose _).1 read_loose
  · exact (hchanged _ (isByName_moreWorkers 9)).2 _ hmore
  · refine (hchanged _ (isByName_moreWorkers 65)).1.2
      ⟨.maxWorkers, .int 65, List.mem_cons_self, nofun, fun a ha => ?_⟩
    cases becomes_iff.1 ha

end Settings

end MakeAtlas
