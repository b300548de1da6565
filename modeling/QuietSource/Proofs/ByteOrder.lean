/-
# Ascending characters and ascending bytes

Texts are compared character by character, and their encodings byte by byte. UTF-8 makes the two
agree: a greater character never has the lesser encoding, and no encoding goes on with another, so
the first character that differs also decides between the bytes.
-/

import Mathlib.Data.String.Basic

namespace QuietSource.Text

/-- The bytes of a text in UTF-8. -/
def utf8Bytes (text : String) : List UInt8 :=
  text.toUTF8.data.toList

theorem utf8Bytes_eq_flatMap (text : String) :
    utf8Bytes text = text.toList.flatMap String.utf8EncodeChar := by
  rw [utf8Bytes, String.toUTF8_eq_toByteArray, ← String.utf8Encode_toList]
  exact List.toList_data_toByteArray

/-! ## The bytes of one character -/

variable {m n : Nat} {front back : List UInt8}

/-- Bytes in front decide, and if they agree, those behind them do. -/
theorem byte_cons_lt (small : n < 256) (h : m < n ∨ m = n ∧ front < back) :
    UInt8.ofNat m :: front < UInt8.ofNat n :: back := by
  rw [List.cons_lt_cons_iff]
  rcases h with less | ⟨same, rest⟩
  · left
    rw [UInt8.lt_iff_toNat_lt, UInt8.toNat_ofNat', UInt8.toNat_ofNat']
    rw [Nat.mod_eq_of_lt (less.trans small), Nat.mod_eq_of_lt small]
    exact less
  · right
    exact ⟨by rw [same], rest⟩

/-- The last byte decides between codes that agree up to their last six bits. -/
theorem lastByte_lt (less : m < n) (lead : m / 64 = n / 64) :
    UInt8.ofNat (m % 64 + 128) :: front < UInt8.ofNat (n % 64 + 128) :: back :=
  byte_cons_lt (by omega) (Or.inl (by omega))

/-- The last two bytes decide between codes that agree up to their last twelve bits. -/
theorem lastTwoBytes_lt (less : m < n) (lead : m / 4096 = n / 4096) :
    UInt8.ofNat (m / 64 % 64 + 128) :: UInt8.ofNat (m % 64 + 128) :: front <
      UInt8.ofNat (n / 64 % 64 + 128) :: UInt8.ofNat (n % 64 + 128) :: back := by
  apply byte_cons_lt (by omega)
  by_cases same : m / 64 = n / 64
  · exact Or.inr ⟨by rw [same], lastByte_lt less same⟩
  · exact Or.inl (by omega)

/-- The last three bytes decide between codes that agree up to their last eighteen bits. -/
theorem lastThreeBytes_lt (less : m < n) (lead : m / 262144 = n / 262144) :
    UInt8.ofNat (m / 4096 % 64 + 128) :: UInt8.ofNat (m / 64 % 64 + 128) ::
        UInt8.ofNat (m % 64 + 128) :: front <
      UInt8.ofNat (n / 4096 % 64 + 128) :: UInt8.ofNat (n / 64 % 64 + 128) ::
        UInt8.ofNat (n % 64 + 128) :: back := by
  apply byte_cons_lt (by omega)
  by_cases same : m / 4096 = n / 4096
  · exact Or.inr ⟨by rw [same], lastTwoBytes_lt less same⟩
  · exact Or.inl (by omega)

/-- The lesser of two characters has the lesser encoding, whatever follows either. -/
theorem utf8EncodeChar_append_lt {c d : Char} (h : c < d) (front back : List UInt8) :
    String.utf8EncodeChar c ++ front < String.utf8EncodeChar d ++ back := by
  have less : c.val.toNat < d.val.toNat := h
  have bound : d.val.toNat < 0x110000 := by
    rcases d.valid with low | ⟨-, high⟩
    · exact low.trans (by decide)
    · exact high
  unfold String.utf8EncodeChar
  generalize c.val.toNat = m at less
  generalize d.val.toNat = n at less bound
  dsimp only
  -- The greater character takes at least as many bytes as the lesser one.
  by_cases oneByte : n ≤ 0x7f
  · rw [if_pos oneByte, if_pos (by omega)]
    exact byte_cons_lt (by omega) (Or.inl less)
  rw [if_neg oneByte]
  by_cases twoBytes : n ≤ 0x7ff
  · rw [if_pos twoBytes]
    by_cases shorter : m ≤ 0x7f
    · rw [if_pos shorter]
      exact byte_cons_lt (by omega) (Or.inl (by omega))
    · rw [if_neg shorter, if_pos (by omega)]
      apply byte_cons_lt (by omega)
      by_cases same : m / 64 = n / 64
      · exact Or.inr ⟨by rw [same], lastByte_lt less same⟩
      · exact Or.inl (by omega)
  rw [if_neg twoBytes]
  by_cases threeBytes : n ≤ 0xffff
  · rw [if_pos threeBytes]
    split
    · exact byte_cons_lt (by omega) (Or.inl (by omega))
    split
    · exact byte_cons_lt (by omega) (Or.inl (by omega))
    · rw [if_pos (by omega)]
      apply byte_cons_lt (by omega)
      by_cases same : m / 4096 = n / 4096
      · exact Or.inr ⟨by rw [same], lastTwoBytes_lt less same⟩
      · exact Or.inl (by omega)
  rw [if_neg threeBytes]
  split
  · exact byte_cons_lt (by omega) (Or.inl (by omega))
  split
  · exact byte_cons_lt (by omega) (Or.inl (by omega))
  split
  · exact byte_cons_lt (by omega) (Or.inl (by omega))
  · apply byte_cons_lt (by omega)
    by_cases same : m / 262144 = n / 262144
    · exact Or.inr ⟨by rw [same], lastThreeBytes_lt less same⟩
    · exact Or.inl (by omega)

/-! ## The bytes of a text -/

theorem flatMap_utf8EncodeChar_lt {first second : List Char} (h : first < second) :
    first.flatMap String.utf8EncodeChar < second.flatMap String.utf8EncodeChar := by
  induction h with
  | @nil c rest =>
    rw [List.flatMap_nil, List.flatMap_cons]
    have bytes : String.utf8EncodeChar c ≠ [] := by
      rw [← List.length_pos_iff, String.length_utf8EncodeChar]
      exact c.utf8Size_pos
    obtain ⟨byte, more, spelled⟩ := List.exists_cons_of_ne_nil bytes
    rw [spelled]
    exact List.nil_lt_cons _ _
  | @rel c front d back less =>
    rw [List.flatMap_cons, List.flatMap_cons]
    exact utf8EncodeChar_append_lt less _ _
  | @cons c front back _ ih =>
    rw [List.flatMap_cons, List.flatMap_cons]
    exact List.append_left_lt ih

theorem utf8Bytes_lt {first second : String} (h : first < second) :
    utf8Bytes first < utf8Bytes second := by
  rw [utf8Bytes_eq_flatMap, utf8Bytes_eq_flatMap]
  exact flatMap_utf8EncodeChar_lt (String.lt_iff_toList_lt.mp h)

/-- Texts are in ascending order of their characters exactly if their encodings are in ascending
order of bytes. -/
theorem utf8Bytes_le_iff (first second : String) :
    utf8Bytes first ≤ utf8Bytes second ↔ first ≤ second := by
  rw [← List.not_lt, ← not_lt, not_iff_not]
  constructor
  · intro less
    rcases lt_trichotomy second first with lower | same | higher
    · exact lower
    · rw [same] at less
      exact absurd less (List.lt_irrefl _)
    · exact absurd less (List.lt_asymm (utf8Bytes_lt higher))
  · exact utf8Bytes_lt

end QuietSource.Text
