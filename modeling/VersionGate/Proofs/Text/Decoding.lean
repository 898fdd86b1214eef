import VersionGate.Proofs.Text.Utf8

/-!
Reading bytes as text.

Inside a character the reader waits for a byte above the ASCII range only. An ASCII byte therefore ends
whatever is under way, and the bytes after it are read as if they stood alone. Bytes that were written
for a text are read as that text.
-/

namespace VersionGate.Text.Utf8

variable {reader : Reader} {byte : UInt8}

namespace Reader

/-- The invariant of a reader: the next byte of an unfinished character is not an ASCII one. -/
def BeyondAscii : Reader → Prop
  | .start => True
  | .inside _ low _ _ => 0x80 ≤ low

theorem begin_beyondAscii (byte : UInt8) : (begin byte).2.BeyondAscii := by
  unfold begin
  split_ifs <;> simp [BeyondAscii]

theorem step_beyondAscii (reader : Reader) (byte : UInt8) : (reader.step byte).2.BeyondAscii := by
  cases reader with
  | start => exact begin_beyondAscii byte
  | inside missing low high code =>
      simp only [step]
      split_ifs
      · trivial
      · simp [BeyondAscii]
      · exact begin_beyondAscii byte

theorem begin_ascii (ascii : byte < 0x80) : begin byte = ([Char.ofNat byte.toNat], .start) := by
  simp [begin, ascii]

/-- An ASCII byte ends an unfinished character and is read as it stands. -/
theorem step_ascii (beyond : reader.BeyondAscii) (ascii : byte < 0x80) :
    reader.step byte = (reader.finish ++ [Char.ofNat byte.toNat], .start) := by
  cases reader with
  | start => exact begin_ascii ascii
  | inside missing low high code =>
      have unfit : ¬ (low ≤ byte ∧ byte ≤ high) := by
        intro fits
        have impossible := UInt8.lt_of_lt_of_le ascii (UInt8.le_trans beyond fits.1)
        exact UInt8.lt_irrefl byte impossible
      simp only [step, if_neg unfit, begin_ascii ascii]
      rfl

theorem BeyondAscii.decode_append_ascii (beyond : reader.BeyondAscii) (ascii : byte < 0x80)
    (bytes rest : List UInt8) :
    reader.decode (bytes ++ byte :: rest) =
      reader.decode bytes ++ Char.ofNat byte.toNat :: Utf8.decode rest := by
  induction bytes generalizing reader with
  | nil =>
      simp only [List.nil_append, Reader.decode, step_ascii beyond ascii, List.append_assoc]
      rfl
  | cons first bytes ih =>
      have later := ih (reader.step_beyondAscii first)
      simp only [List.cons_append, Reader.decode, later, List.append_assoc]

section Bytes

variable {n count code : Nat} {low high : UInt8}

theorem toNat_toUInt8 (bound : n < 256) : n.toUInt8.toNat = n := by
  simp [Nat.mod_eq_of_lt bound]

theorem begin_two (lower : 0xC2 ≤ n) (upper : n < 0xE0) :
    begin n.toUInt8 = ([], .inside 1 0x80 0xBF (n - 0xC0)) := by
  have value : n.toUInt8.toNat = n := toNat_toUInt8 (by omega)
  unfold begin
  simp only [UInt8.lt_iff_toNat_lt, value, UInt8.reduceToNat]
  rw [if_neg (by omega), if_neg (by omega), if_pos upper]

/-- The first of three bytes bounds the second one: the shorter forms and the surrogates are left out. -/
theorem begin_three (lower : 0xE0 ≤ n) (upper : n < 0xF0) :
    ∃ low high, begin n.toUInt8 = ([], .inside 2 low high (n - 0xE0)) ∧
      low.toNat = (if n = 0xE0 then 0xA0 else 0x80) ∧
      high.toNat = if n = 0xED then 0x9F else 0xBF := by
  by_cases first : n = 0xE0
  · subst first
    exact ⟨0xA0, 0xBF, rfl, rfl, rfl⟩
  by_cases surrogate : n = 0xED
  · subst surrogate
    exact ⟨0x80, 0x9F, rfl, rfl, rfl⟩
  refine ⟨0x80, 0xBF, ?_, by simp [first], by simp [surrogate]⟩
  have value : n.toUInt8.toNat = n := toNat_toUInt8 (by omega)
  unfold begin
  simp only [UInt8.lt_iff_toNat_lt, ← UInt8.toNat_inj, value, UInt8.reduceToNat]
  rw [if_neg (by omega), if_neg (by omega), if_neg (by omega), if_neg first, if_neg surrogate,
    if_pos upper]

/-- The first of four bytes bounds the second one too: no code point lies beyond the last one. -/
theorem begin_four (lower : 0xF0 ≤ n) (upper : n < 0xF5) :
    ∃ low high, begin n.toUInt8 = ([], .inside 3 low high (n - 0xF0)) ∧
      low.toNat = (if n = 0xF0 then 0x90 else 0x80) ∧
      high.toNat = if n = 0xF4 then 0x8F else 0xBF := by
  by_cases first : n = 0xF0
  · subst first
    exact ⟨0x90, 0xBF, rfl, rfl, rfl⟩
  by_cases last : n = 0xF4
  · subst last
    exact ⟨0x80, 0x8F, rfl, rfl, rfl⟩
  refine ⟨0x80, 0xBF, ?_, by simp [first], by simp [last]⟩
  have value : n.toUInt8.toNat = n := toNat_toUInt8 (by omega)
  unfold begin
  simp only [UInt8.lt_iff_toNat_lt, ← UInt8.toNat_inj, value, UInt8.reduceToNat]
  rw [if_neg (by omega), if_neg (by omega), if_neg (by omega), if_neg (by omega), if_neg (by omega),
    if_neg (by omega), if_neg first, if_pos (by omega)]

theorem decode_of_begin {next : Reader} (begun : begin n.toUInt8 = ([], next))
    (rest : List UInt8) :
    Reader.start.decode (n.toUInt8 :: rest) = next.decode rest := by
  simp only [Reader.decode, step, begun, List.nil_append]

theorem step_of_fits (lower : low.toNat ≤ n) (upper : n ≤ high.toNat) :
    (inside count low high code).step n.toUInt8 =
      if count ≤ 1 then ([Char.ofNat (code * 0x40 + (n - 0x80))], .start)
      else ([], .inside (count - 1) 0x80 0xBF (code * 0x40 + (n - 0x80))) := by
  have value : n.toUInt8.toNat = n := toNat_toUInt8 (Nat.lt_of_le_of_lt upper high.toNat_lt)
  have fits : low ≤ n.toUInt8 ∧ n.toUInt8 ≤ high := by
    simp only [UInt8.le_iff_toNat_le, value]
    exact ⟨lower, upper⟩
  simp only [step, if_pos fits, value]

theorem decode_further (lower : low.toNat ≤ n) (upper : n ≤ high.toNat) (rest : List UInt8) :
    (inside (count + 2) low high code).decode (n.toUInt8 :: rest) =
      (inside (count + 1) 0x80 0xBF (code * 0x40 + (n - 0x80))).decode rest := by
  have more : ¬ count + 2 ≤ 1 := by omega
  simp only [Reader.decode, step_of_fits lower upper, if_neg more, List.nil_append]
  rfl

theorem decode_last (lower : low.toNat ≤ n) (upper : n ≤ high.toNat) (rest : List UInt8) :
    (inside 1 low high code).decode (n.toUInt8 :: rest) =
      Char.ofNat (code * 0x40 + (n - 0x80)) :: Utf8.decode rest := by
  simp only [Reader.decode, step_of_fits lower upper, Nat.le_refl, if_true, List.singleton_append]
  rfl

end Bytes

end Reader

theorem start_beyondAscii : Reader.start.BeyondAscii := trivial

/-- An ASCII byte is never lost in a broken character before it, and what follows it is read on its own. -/
theorem decode_append_ascii (ascii : byte < 0x80) (bytes rest : List UInt8) :
    decode (bytes ++ byte :: rest) = decode bytes ++ Char.ofNat byte.toNat :: decode rest :=
  start_beyondAscii.decode_append_ascii ascii bytes rest

section Characters

variable {n : Nat}

open Reader

theorem decode_one_byte (upper : n < 0x80) (rest : List UInt8) :
    decode (n.toUInt8 :: rest) = Char.ofNat n :: decode rest := by
  have value : n.toUInt8.toNat = n := toNat_toUInt8 (by omega)
  have ascii : n.toUInt8 < 0x80 := by
    rw [UInt8.lt_iff_toNat_lt, value]
    exact upper
  have read := decode_append_ascii ascii [] rest
  rwa [value] at read

theorem decode_two_bytes (lower : 0x80 ≤ n) (upper : n < 0x800) (rest : List UInt8) :
    decode ((0xC0 + n / 0x40).toUInt8 :: (0x80 + n % 0x40).toUInt8 :: rest) =
      Char.ofNat n :: decode rest := by
  have begun := begin_two (show 0xC2 ≤ 0xC0 + n / 0x40 by omega) (by omega)
  have code : (0xC0 + n / 0x40 - 0xC0) * 0x40 + (0x80 + n % 0x40 - 0x80) = n := by omega
  unfold decode
  rw [decode_of_begin begun, decode_last (by simp) (by simp; omega), code]
  rfl

theorem decode_three_bytes (lower : 0x800 ≤ n) (upper : n < 0x10000)
    (scalar : n < 0xD800 ∨ 0xDFFF < n) (rest : List UInt8) :
    decode ((0xE0 + n / 0x1000).toUInt8 :: (0x80 + n / 0x40 % 0x40).toUInt8 ::
        (0x80 + n % 0x40).toUInt8 :: rest) =
      Char.ofNat n :: decode rest := by
  obtain ⟨low, high, begun, lowest, highest⟩ :=
    begin_three (show 0xE0 ≤ 0xE0 + n / 0x1000 by omega) (by omega)
  have least : low.toNat ≤ 0x80 + n / 0x40 % 0x40 := by
    rw [lowest]
    split <;> omega
  have most : 0x80 + n / 0x40 % 0x40 ≤ high.toNat := by
    rw [highest]
    split <;> omega
  have code : ((0xE0 + n / 0x1000 - 0xE0) * 0x40 + (0x80 + n / 0x40 % 0x40 - 0x80)) * 0x40 +
      (0x80 + n % 0x40 - 0x80) = n := by omega
  unfold decode
  rw [decode_of_begin begun, decode_further least most, decode_last (by simp) (by simp; omega), code]
  rfl

theorem decode_four_bytes (lower : 0x10000 ≤ n) (upper : n < 0x110000) (rest : List UInt8) :
    decode ((0xF0 + n / 0x40000).toUInt8 :: (0x80 + n / 0x1000 % 0x40).toUInt8 ::
        (0x80 + n / 0x40 % 0x40).toUInt8 :: (0x80 + n % 0x40).toUInt8 :: rest) =
      Char.ofNat n :: decode rest := by
  obtain ⟨low, high, begun, lowest, highest⟩ :=
    begin_four (show 0xF0 ≤ 0xF0 + n / 0x40000 by omega) (by omega)
  have least : low.toNat ≤ 0x80 + n / 0x1000 % 0x40 := by
    rw [lowest]
    split <;> omega
  have most : 0x80 + n / 0x1000 % 0x40 ≤ high.toNat := by
    rw [highest]
    split <;> omega
  have code : (((0xF0 + n / 0x40000 - 0xF0) * 0x40 + (0x80 + n / 0x1000 % 0x40 - 0x80)) * 0x40 +
      (0x80 + n / 0x40 % 0x40 - 0x80)) * 0x40 + (0x80 + n % 0x40 - 0x80) = n := by omega
  unfold decode
  rw [decode_of_begin begun, decode_further least most, decode_further (by simp) (by simp; omega),
    decode_last (by simp) (by simp; omega), code]
  rfl

end Characters

theorem decode_encodeChar (c : Char) (rest : List UInt8) :
    decode (encodeChar c ++ rest) = c :: decode rest := by
  have scalar : c.toNat < 0xD800 ∨ 0xDFFF < c.toNat := by
    have valid := c.valid
    simp only [UInt32.isValidChar, Nat.isValidChar] at valid
    change c.val.toNat < 0xD800 ∨ 0xDFFF < c.val.toNat
    omega
  have bound := toNat_lt c
  have read : decode (encodeChar c ++ rest) = Char.ofNat c.toNat :: decode rest := by
    unfold encodeChar
    generalize c.toNat = code at scalar bound
    simp only
    split_ifs with one two three
    · exact decode_one_byte one rest
    · exact decode_two_bytes (by omega) two rest
    · exact decode_three_bytes (by omega) three scalar rest
    · exact decode_four_bytes (by omega) bound rest
  rwa [Char.ofNat_toNat] at read

/-- The bytes of a text are read as that text, and what follows them is read on its own. -/
theorem decode_encode_append (text : List Char) (rest : List UInt8) :
    decode (encode text ++ rest) = text ++ decode rest := by
  induction text with
  | nil => rfl
  | cons c text ih => rw [encode_cons, List.append_assoc, decode_encodeChar, ih, List.cons_append]

theorem decode_encode (text : List Char) : decode (encode text) = text := by
  have read := decode_encode_append text []
  rwa [List.append_nil, show decode [] = [] from rfl, List.append_nil] at read

end VersionGate.Text.Utf8
