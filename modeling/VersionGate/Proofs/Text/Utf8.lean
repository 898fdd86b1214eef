import Mathlib.Tactic.SplitIfs
import VersionGate.Text.Utf8

namespace VersionGate.Text.Utf8

theorem compare_append_left {α : Type} [Ord α] [Std.ReflOrd α] (front left right : List α) :
    compare (front ++ left) (front ++ right) = compare left right := by
  induction front with
  | nil => rfl
  | cons first rest ih =>
      simp only [List.cons_append, List.compare_cons_cons, Std.ReflOrd.compare_self, ih]
      rfl

section Bytes

variable {low high : Nat} {left right : List UInt8}

/-- A byte decides an order if it differs, and leaves it to the bytes after it if it does not. -/
theorem compare_bytes (lowByte : low < 256) (highByte : high < 256)
    (decided : low < high ∨ low = high ∧ compare left right = .lt) :
    compare (low.toUInt8 :: left) (high.toUInt8 :: right) = .lt := by
  rw [List.compare_cons_cons]
  rcases decided with less | ⟨rfl, later⟩
  · have first : compare low.toUInt8 high.toUInt8 = .lt := by
      rw [Std.compare_eq_lt, UInt8.lt_iff_toNat_lt]
      simpa [Nat.mod_eq_of_lt lowByte, Nat.mod_eq_of_lt highByte] using less
    rw [first]
    rfl
  · rw [Std.ReflOrd.compare_self, later]
    rfl

theorem compare_two_bytes (less : low < high) (bound : high < 0x800) :
    compare
      ((0xC0 + low / 0x40).toUInt8 :: (0x80 + low % 0x40).toUInt8 :: left)
      ((0xC0 + high / 0x40).toUInt8 :: (0x80 + high % 0x40).toUInt8 :: right) = .lt := by
  refine compare_bytes (by omega) (by omega) ?_
  rcases Nat.lt_or_ge (low / 0x40) (high / 0x40) with first | first
  · exact .inl (by omega)
  · exact .inr ⟨by omega, compare_bytes (by omega) (by omega) (.inl (by omega))⟩

theorem compare_last_bytes (less : low % 0x1000 < high % 0x1000) :
    compare
      ((0x80 + low / 0x40 % 0x40).toUInt8 :: (0x80 + low % 0x40).toUInt8 :: left)
      ((0x80 + high / 0x40 % 0x40).toUInt8 :: (0x80 + high % 0x40).toUInt8 :: right) = .lt := by
  refine compare_bytes (by omega) (by omega) ?_
  rcases Nat.lt_or_ge (low / 0x40 % 0x40) (high / 0x40 % 0x40) with first | first
  · exact .inl (by omega)
  · exact .inr ⟨by omega, compare_bytes (by omega) (by omega) (.inl (by omega))⟩

theorem compare_three_bytes (less : low < high) (bound : high < 0x10000) :
    compare
      ((0xE0 + low / 0x1000).toUInt8 :: (0x80 + low / 0x40 % 0x40).toUInt8 ::
        (0x80 + low % 0x40).toUInt8 :: left)
      ((0xE0 + high / 0x1000).toUInt8 :: (0x80 + high / 0x40 % 0x40).toUInt8 ::
        (0x80 + high % 0x40).toUInt8 :: right) = .lt := by
  refine compare_bytes (by omega) (by omega) ?_
  rcases Nat.lt_or_ge (low / 0x1000) (high / 0x1000) with first | first
  · exact .inl (by omega)
  · exact .inr ⟨by omega, compare_last_bytes (by omega)⟩

theorem compare_four_bytes (less : low < high) (bound : high < 0x110000) :
    compare
      ((0xF0 + low / 0x40000).toUInt8 :: (0x80 + low / 0x1000 % 0x40).toUInt8 ::
        (0x80 + low / 0x40 % 0x40).toUInt8 :: (0x80 + low % 0x40).toUInt8 :: left)
      ((0xF0 + high / 0x40000).toUInt8 :: (0x80 + high / 0x1000 % 0x40).toUInt8 ::
        (0x80 + high / 0x40 % 0x40).toUInt8 :: (0x80 + high % 0x40).toUInt8 :: right) = .lt := by
  refine compare_bytes (by omega) (by omega) ?_
  rcases Nat.lt_or_ge (low / 0x40000) (high / 0x40000) with first | first
  · exact .inl (by omega)
  · refine .inr ⟨by omega, compare_bytes (by omega) (by omega) ?_⟩
    rcases Nat.lt_or_ge (low / 0x1000 % 0x40) (high / 0x1000 % 0x40) with second | second
    · exact .inl (by omega)
    · exact .inr ⟨by omega, compare_last_bytes (by omega)⟩

end Bytes

theorem toNat_lt (c : Char) : c.toNat < 0x110000 := by
  have valid := c.valid
  simp only [UInt32.isValidChar, Nat.isValidChar] at valid
  change c.val.toNat < 0x110000
  omega

theorem encodeChar_lt {low high : Char} (less : low.toNat < high.toNat) (left right : List UInt8) :
    compare (encodeChar low ++ left) (encodeChar high ++ right) = .lt := by
  have bound := toNat_lt high
  simp only [encodeChar]
  generalize low.toNat = low at *
  generalize high.toNat = high at *
  split_ifs
  -- the lower character has no more bytes than the higher one
  any_goals omega
  -- one byte against one to four
  · exact compare_bytes (by omega) (by omega) (.inl less)
  · exact compare_bytes (by omega) (by omega) (.inl (by omega))
  · exact compare_bytes (by omega) (by omega) (.inl (by omega))
  · exact compare_bytes (by omega) (by omega) (.inl (by omega))
  -- two bytes against two to four
  · exact compare_two_bytes less (by omega)
  · exact compare_bytes (by omega) (by omega) (.inl (by omega))
  · exact compare_bytes (by omega) (by omega) (.inl (by omega))
  -- three bytes against three and four
  · exact compare_three_bytes less (by omega)
  · exact compare_bytes (by omega) (by omega) (.inl (by omega))
  · exact compare_four_bytes less bound

theorem encodeChar_ne_nil (c : Char) : encodeChar c ≠ [] := by
  simp only [encodeChar]
  split_ifs <;> simp

@[simp] theorem encode_nil : encode [] = [] := rfl

@[simp] theorem encode_cons (c : Char) (rest : List Char) :
    encode (c :: rest) = encodeChar c ++ encode rest := rfl

/-- Texts are ordered by their bytes as they are by their code points. -/
theorem compare_encode (left right : List Char) :
    compare (encode left) (encode right) = compare (left.map Char.toNat) (right.map Char.toNat) := by
  induction left generalizing right with
  | nil =>
      cases right with
      | nil => rfl
      | cons c rest =>
          obtain ⟨byte, bytes, encoded⟩ := List.exists_cons_of_ne_nil (encodeChar_ne_nil c)
          rw [encode_cons, encoded]
          rfl
  | cons c left ih =>
      cases right with
      | nil =>
          obtain ⟨byte, bytes, encoded⟩ := List.exists_cons_of_ne_nil (encodeChar_ne_nil c)
          rw [encode_cons, encoded]
          rfl
      | cons d right =>
          rw [encode_cons, encode_cons, List.map_cons, List.map_cons, List.compare_cons_cons]
          rcases Nat.lt_trichotomy c.toNat d.toNat with less | same | greater
          · rw [encodeChar_lt less, Nat.compare_eq_lt.mpr less]
            rfl
          · cases Char.toNat_inj.mp same
            rw [compare_append_left, ih, Nat.compare_eq_eq.mpr rfl]
            rfl
          · rw [Std.OrientedOrd.eq_swap, encodeChar_lt greater, Nat.compare_eq_gt.mpr greater]
            rfl

theorem compare_encode_eq_iff {left right : List Char} :
    compare (encode left) (encode right) = .eq ↔ left = right := by
  rw [compare_encode, Std.compare_eq_iff_eq]
  exact List.map_inj_right fun _ _ same => Char.toNat_inj.mp same

theorem encodeChar_eq_utf8EncodeChar (c : Char) : encodeChar c = String.utf8EncodeChar c := by
  have bound := toNat_lt c
  simp only [encodeChar, String.utf8EncodeChar, Char.toNat] at *
  generalize c.val.toNat = code at *
  have byte {left right : Nat} (same : left = right) : left.toUInt8 = UInt8.ofNat right :=
    congrArg UInt8.ofNat same
  split_ifs
  any_goals omega
  · rfl
  all_goals simp only [List.cons.injEq, and_true]
  · exact ⟨byte (by omega), byte (by omega)⟩
  · exact ⟨byte (by omega), byte (by omega), byte (by omega)⟩
  · exact ⟨byte (by omega), byte (by omega), byte (by omega), byte (by omega)⟩

theorem encode_toList (text : String) : encode text.toList = text.toByteArray.data.toList := by
  rw [← String.utf8Encode_toList, List.utf8Encode, List.data_toByteArray, encode]
  congr 1
  funext c
  exact encodeChar_eq_utf8EncodeChar c

end VersionGate.Text.Utf8
