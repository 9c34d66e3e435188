import MakeAtlas.Text.Utf8
import Mathlib.Tactic.IntervalCases

/-!
# Reading what is encoded

The bytes of a text are read as the text. Each of its characters is read on its own, and the next
one begins right behind it.

## Key results

- `itemsFrom_char`: the bytes of a character, whatever follows them
- `decode_encode`: the bytes of a text
- `unifyNewlines_eq_self`: a text without carriage returns
-/

namespace MakeAtlas.Text

namespace Utf8

/-! ## First bytes

The number is what the first byte holds of the character. -/

private theorem begin_two (pos : Nat) {n : Nat} (hlow : 2 ≤ n) (hhigh : n < 32) :
    begin pos (UInt8.ofNat (n + 192)) =
      ([], some ⟨pos, [UInt8.ofNat (n + 192)], n, 1, 0x80, 0xBF⟩) := by
  interval_cases n <;> rfl

/-- Of three bytes, the second is bounded so that nothing is written longer than needed, and that it
    is no surrogate. -/
private theorem begin_three (pos : Nat) {n : Nat} (hhigh : n < 16) :
    begin pos (UInt8.ofNat (n + 224)) =
      ([], some ⟨pos, [UInt8.ofNat (n + 224)], n, 2, if n = 0 then 0xA0 else 0x80,
        if n = 13 then 0x9F else 0xBF⟩) := by
  interval_cases n <;> rfl

/-- Of four bytes, the second is bounded so that nothing is written longer than needed, and that
    there is such a character. -/
private theorem begin_four (pos : Nat) {n : Nat} (hhigh : n < 5) :
    begin pos (UInt8.ofNat (n + 240)) =
      ([], some ⟨pos, [UInt8.ofNat (n + 240)], n, 3, if n = 0 then 0x90 else 0x80,
        if n = 4 then 0x8F else 0xBF⟩) := by
  interval_cases n <;> rfl

/-! ## Bytes that go on -/

private theorem toNat_continuation {n : Nat} (h : n < 64) :
    (UInt8.ofNat (n + 128)).toNat = n + 128 := by
  rw [UInt8.toNat_ofNat']
  omega

/-- A byte within the bounds adds its bits; another one has to follow. -/
private theorem itemsFrom_more (pos : Nat) {g : Begun} {n : Nat} (h : n < 64)
    (hlow : g.low ≤ n + 128) (hhigh : n + 128 ≤ g.high) (hmissing : 1 < g.missing) (rest : Bytes) :
    itemsFrom pos (some g) (UInt8.ofNat (n + 128) :: rest) =
      itemsFrom (pos + 1) (some ⟨g.start, g.bytes ++ [UInt8.ofNat (n + 128)], g.bits * 64 + n,
        g.missing - 1, 0x80, 0xBF⟩) rest := by
  have hmod : (n + 128) % 64 = n := by omega
  rw [itemsFrom, step, toNat_continuation h, if_pos ⟨hlow, hhigh⟩, if_neg (by omega), hmod]
  rfl

/-- The last byte within the bounds completes a character. -/
private theorem itemsFrom_last (pos : Nat) {g : Begun} {n : Nat} (h : n < 64)
    (hlow : g.low ≤ n + 128) (hhigh : n + 128 ≤ g.high) (hmissing : g.missing = 1) (rest : Bytes) :
    itemsFrom pos (some g) (UInt8.ofNat (n + 128) :: rest) =
      .char (Char.ofNat (g.bits * 64 + n)) :: itemsFrom (pos + 1) none rest := by
  have hmod : (n + 128) % 64 = n := by omega
  rw [itemsFrom, step, toNat_continuation h, if_pos ⟨hlow, hhigh⟩, if_pos (by omega), hmod]
  rfl

/-! ## Characters and texts -/

section Widths

variable (pos : Nat) {n : Nat} (rest : Bytes)

private theorem itemsFrom_begin (b : UInt8) :
    itemsFrom pos none (b :: rest) = (begin pos b).1 ++ itemsFrom (pos + 1) (begin pos b).2 rest :=
  rfl

private theorem itemsFrom_one (h : n < 0x80) :
    itemsFrom pos none (UInt8.ofNat n :: rest) =
      .char (Char.ofNat n) :: itemsFrom (pos + 1) none rest := by
  have hbyte : (UInt8.ofNat n).toNat = n := by
    rw [UInt8.toNat_ofNat']
    omega
  rw [itemsFrom_begin, begin, hbyte, if_pos h]
  rfl

private theorem itemsFrom_two (hlow : 0x80 ≤ n) (hhigh : n < 0x800) :
    itemsFrom pos none (UInt8.ofNat (n / 64 % 32 + 192) :: UInt8.ofNat (n % 64 + 128) :: rest) =
      .char (Char.ofNat n) :: itemsFrom (pos + 2) none rest := by
  have hbits : n / 64 % 32 * 64 + n % 64 = n := by omega
  rw [itemsFrom_begin, begin_two pos (by omega) (by omega), List.nil_append,
    itemsFrom_last _ (by omega) (by dsimp only; omega) (by dsimp only; omega) rfl, hbits]

private theorem itemsFrom_three (hlow : 0x800 ≤ n) (hhigh : n < 0x10000)
    (hvalid : n < 0xD800 ∨ 0xDFFF < n) :
    itemsFrom pos none (UInt8.ofNat (n / 4096 % 16 + 224) :: UInt8.ofNat (n / 64 % 64 + 128) ::
        UInt8.ofNat (n % 64 + 128) :: rest) =
      .char (Char.ofNat n) :: itemsFrom (pos + 3) none rest := by
  have hbits : (n / 4096 % 16 * 64 + n / 64 % 64) * 64 + n % 64 = n := by omega
  rw [itemsFrom_begin, begin_three pos (by omega), List.nil_append,
    itemsFrom_more _ (by omega) (by dsimp only; split <;> omega) (by dsimp only; split <;> omega)
      (Nat.lt_succ_self 1),
    itemsFrom_last _ (by omega) (by dsimp only; omega) (by dsimp only; omega) rfl, hbits]

private theorem itemsFrom_four (hlow : 0x10000 ≤ n) (hhigh : n < 0x110000) :
    itemsFrom pos none (UInt8.ofNat (n / 262144 % 8 + 240) :: UInt8.ofNat (n / 4096 % 64 + 128) ::
        UInt8.ofNat (n / 64 % 64 + 128) :: UInt8.ofNat (n % 64 + 128) :: rest) =
      .char (Char.ofNat n) :: itemsFrom (pos + 4) none rest := by
  have hbits : ((n / 262144 % 8 * 64 + n / 4096 % 64) * 64 + n / 64 % 64) * 64 + n % 64 = n := by
    omega
  rw [itemsFrom_begin, begin_four pos (by omega), List.nil_append,
    itemsFrom_more _ (by omega) (by dsimp only; split <;> omega) (by dsimp only; split <;> omega)
      (Nat.lt_add_of_pos_right Nat.two_pos),
    itemsFrom_more _ (by omega) (by dsimp only; omega) (by dsimp only; omega)
      (Nat.lt_succ_self 1),
    itemsFrom_last _ (by omega) (by dsimp only; omega) (by dsimp only; omega) rfl, hbits]

end Widths

/-- The bytes of a character are read as the character, and reading goes on behind them. -/
theorem itemsFrom_char (pos : Nat) (c : Char) (rest : Bytes) :
    itemsFrom pos none (String.utf8EncodeChar c ++ rest) =
      .char c :: itemsFrom (pos + (String.utf8EncodeChar c).length) none rest := by
  have hvalid : c.val.toNat < 0xD800 ∨ (0xDFFF < c.val.toNat ∧ c.val.toNat < 0x110000) := c.valid
  have hc : Char.ofNat c.val.toNat = c := Char.ofNat_toNat c
  -- one case for each number of bytes
  unfold String.utf8EncodeChar
  dsimp only
  split_ifs
  · have h := itemsFrom_one (n := c.val.toNat) pos rest (by omega)
    rwa [hc] at h
  · have h := itemsFrom_two (n := c.val.toNat) pos rest (by omega) (by omega)
    rwa [hc] at h
  · have h := itemsFrom_three (n := c.val.toNat) pos rest (by omega) (by omega) (by omega)
    rwa [hc] at h
  · have h := itemsFrom_four (n := c.val.toNat) pos rest (by omega) (by omega)
    rwa [hc] at h

/-- The bytes of a text are those of its characters. -/
theorem encode_eq (text : String) : encode text = text.toList.flatMap String.utf8EncodeChar := by
  have hbytes : text.toUTF8 = text.toList.utf8Encode := by
    conv_lhs => rw [← String.ofList_toList (s := text)]
    exact String.toByteArray_ofList
  rw [encode, hbytes, List.utf8Encode, List.toList_data_toByteArray]

theorem items_encode (text : String) : items (encode text) = text.toList.map .char := by
  suffices ∀ (cs : List Char) (pos : Nat),
      itemsFrom pos none (cs.flatMap String.utf8EncodeChar) = cs.map .char by
    rw [items, encode_eq, this]
  intro cs
  induction cs with
  | nil => exact fun _ => rfl
  | cons c cs ih =>
    intro pos
    rw [List.flatMap_cons, itemsFrom_char, ih, List.map_cons]

/-- The bytes of a text are read as the text. -/
theorem decode_encode (text : String) : decode (encode text) = .ok text.toList := by
  rw [decode, items_encode]
  generalize text.toList = cs
  induction cs with
  | nil => rfl
  | cons c cs ih =>
    rw [List.map_cons, List.mapM_cons, ih]
    rfl

end Utf8

/-- A text without carriage returns keeps its newlines. -/
theorem unifyNewlines_eq_self {cs : List Char} (h : '\r' ∉ cs) : unifyNewlines cs = cs := by
  fun_induction unifyNewlines cs with
  | case1 => rfl
  | case2 rest _ => exact absurd List.mem_cons_self h
  | case3 rest _ _ => exact absurd List.mem_cons_self h
  | case4 c rest _ _ ih => rw [ih fun hmem => h (List.mem_cons_of_mem _ hmem)]

end MakeAtlas.Text
