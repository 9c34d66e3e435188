import MakeAtlas.Record.Reading

/-!
# Reading what has been written

Readings of lists and tables whose values are in order succeed, value by value, and a rule that
finds nothing leaves a reading as it is.

## Key results

- `check_ok_iff`, `check_eq_ok_iff`: what passes a rule
- `withDefault_eq_ok_iff`: a part is its entry as it is read, or its default
- `list_map_eq_ok`, `table_map_eq_ok_iff`: a list or a table is read back if all its members are
- `exists_read_of_table_eq_ok`: every value of a table has been read
-/

namespace MakeAtlas.Record

variable {α : Type}

namespace Reading

/-- A rule that finds nothing leaves a reading as it is, and one that finds something ends it. -/
theorem check_ok_iff {rule : α → Option String} {input : Value} {a b : α} :
    Reading.check rule input (.ok a) = .ok b ↔ rule a = none ∧ a = b := by
  rw [Reading.check, andThen]
  cases rule a with
  | none => simp
  | some reason => simp [fault]

/-- What passes a rule has been read, and the rule finds nothing in it. -/
theorem check_eq_ok_iff {rule : α → Option String} {input : Value} {reading : Reading α} {a : α} :
    Reading.check rule input reading = .ok a ↔ reading = .ok a ∧ rule a = none := by
  cases reading with
  | faulty faults => simp [Reading.check, andThen]
  | ok b =>
    rw [check_ok_iff, ok.injEq]
    constructor
    · rintro ⟨hnone, rfl⟩
      exact ⟨rfl, hnone⟩
    · rintro ⟨rfl, hnone⟩
      exact ⟨hnone, rfl⟩

/-- Where a reading stands makes no difference to what is read. -/
@[simp] theorem below_eq_ok_iff {step : Step} {reading : Reading α} {a : α} :
    reading.below step = .ok a ↔ reading = .ok a := by
  cases reading <;> simp [below]

end Reading

/-! ## Parts -/

/-- A part is its entry as it is read, or its default. -/
theorem withDefault_eq_ok_iff {es : Table Value} {part : Part} {default a : α}
    {read : Value → Reading α} :
    withDefault es part default read = .ok a ↔
      (∃ key v, part.find? es = some (key, v) ∧ read v = .ok a) ∨
        part.find? es = none ∧ default = a := by
  unfold withDefault
  cases part.find? es with
  | none => simp
  | some entry =>
    obtain ⟨key, v⟩ := entry
    rw [Reading.below_eq_ok_iff]
    constructor
    · exact fun hread => Or.inl ⟨key, v, rfl, hread⟩
    · rintro (⟨_, _, hsame, hread⟩ | ⟨hnone, -⟩)
      · cases hsame
        exact hread
      · cases hnone

/-! ## Lists and tables -/

theorem items_map_eq_ok {read : Value → Reading α} {write : α → Value} {as : List α}
    (h : ∀ a ∈ as, read (write a) = .ok a) (start : Nat) :
    items read start (as.map write) = .ok as := by
  induction as generalizing start with
  | nil => rfl
  | cons a as ih =>
    have hrest := ih (fun b hb => h b (List.mem_cons_of_mem _ hb)) (start + 1)
    rw [List.map_cons, items, hrest, h a List.mem_cons_self]
    rfl

/-- A list is read back if each of its members is. -/
theorem list_map_eq_ok {read : Value → Reading α} {write : α → Value} {as : List α}
    (h : ∀ a ∈ as, read (write a) = .ok a) :
    list read (.list (as.map write)) = .ok as :=
  items_map_eq_ok h 0

/-- A list of texts is read back. -/
theorem list_text_eq_ok (words : List String) :
    list text (.list (words.map .text)) = .ok words :=
  list_map_eq_ok fun _ _ => rfl

/-- A table is read back exactly if each of its values is. -/
theorem table_map_eq_ok_iff {read : Value → Reading α} {write : α → Value} {es : Table α} :
    table read (.table (es.map fun entry => (entry.1, write entry.2))) = .ok es ↔
      ∀ entry ∈ es, read (write entry.2) = .ok entry.2 := by
  show entries read (es.map fun entry => (entry.1, write entry.2)) = .ok es ↔ _
  induction es with
  | nil => exact iff_of_true rfl (by simp)
  | cons entry es ih =>
    rw [List.forall_mem_cons, ← ih, List.map_cons, entries]
    show Reading.both (Reading.map _ _) _ = _ ↔ _
    cases read (write entry.2) with
    | faulty faults => cases entries read (es.map fun entry => (entry.1, write entry.2)) <;>
        simp [Reading.below, Reading.map, Reading.both]
    | ok a =>
      cases entries read (es.map fun entry => (entry.1, write entry.2)) <;>
        simp [Reading.below, Reading.map, Reading.both, Prod.ext_iff]

/-- Every value of a table that is read has been read. -/
theorem exists_read_of_table_eq_ok {read : Value → Reading α} {v : Value} {es : Table α}
    (h : table read v = .ok es) : ∀ entry ∈ es, ∃ w, read w = .ok entry.2 := by
  cases v with
  | table given =>
    replace h : entries read given = .ok es := h
    induction given generalizing es with
    | nil =>
      cases h
      exact fun _ hentry => absurd hentry List.not_mem_nil
    | cons first rest ih =>
      obtain ⟨key, w⟩ := first
      obtain ⟨_, others, hfirst, hothers, rfl⟩ := Reading.both_ok_iff.1 h
      obtain ⟨a, ha, rfl⟩ := Reading.map_ok_iff.1 hfirst
      rw [List.forall_mem_cons]
      exact ⟨⟨w, Reading.below_eq_ok_iff.1 ha⟩, ih hothers⟩
  | _ => cases h

end MakeAtlas.Record
