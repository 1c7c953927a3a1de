import Mathlib.Data.List.Basic
import ModuleMapper.Bytes

/-!
# Texts — the bytes that characters become

  The UTF-8 form of a text is the UTF-8 form of its characters, one behind the other (`ofString_eq`).  The
  characters of ASCII are one byte each there, and no byte below 0x80 comes from another character
  (`char_of_mem_utf8`), so bytes below 0x80 are a text (`exists_text_of_ascii`).
-/

namespace ModuleMapper

/-- A byte as a character has the byte as its code point. -/
@[simp] theorem Byte.char_toNat (b : UInt8) : (Byte.char b).toNat = b.toNat := by
  have hvalid : b.toNat.isValidChar := Or.inl (Nat.lt_trans b.toNat_lt (by decide))
  rw [Byte.char, Char.ofNat, dif_pos hvalid]
  rfl

theorem Byte.char_injective : Function.Injective Byte.char := by
  intro b other h
  rw [← UInt8.toNat_inj, ← char_toNat b, h, char_toNat]

namespace Bytes

variable {bytes : Bytes} {text : String}

/-- The UTF-8 form of a text is read as this text. -/
theorem toString?_ofString (text : String) : toString? (ofString text) = some text := by
  have hbytes : (⟨(ofString text).toArray⟩ : ByteArray) = text.toByteArray := by
    apply ByteArray.ext
    exact Array.toArray_toList
  rw [toString?, hbytes, String.fromUTF8?, dif_pos text.isValidUTF8]
  rfl

theorem ofString_ofList (chars : List Char) :
    ofString (String.ofList chars) = chars.flatMap String.utf8EncodeChar := by
  rw [ofString, String.toUTF8_eq_toByteArray, String.toByteArray_ofList]
  exact List.toList_data_toByteArray

theorem ofString_eq (text : String) : ofString text = text.toList.flatMap String.utf8EncodeChar := by
  rw [← ofString_ofList, String.ofList_toList]

/-- A byte as a character of ASCII becomes this byte again. -/
theorem utf8_char {b : UInt8} (h : b < 0x80) : String.utf8EncodeChar (Byte.char b) = [b] := by
  have hb : b.toNat < 128 := UInt8.lt_iff_toNat_lt.mp h
  have hval : (Byte.char b).val.toNat = b.toNat := Byte.char_toNat b
  rw [String.utf8EncodeChar, hval]
  simp only [if_pos (Nat.le_of_lt_succ hb), UInt8.ofNat_toNat]

/-- A byte below 0x80 stands for the character of this code point, and is no part of another one's form. -/
theorem char_of_mem_utf8 {b : UInt8} {c : Char} (hmem : b ∈ String.utf8EncodeChar c) (hb : b < 0x80) :
    c = Byte.char b := by
  have hlow : b.toNat < 128 := UInt8.lt_iff_toNat_lt.mp hb
  -- every byte of a longer form is one of the high ones
  have hhigh : ∀ n, 128 ≤ n → n < 256 → b ≠ UInt8.ofNat n := by
    rintro n hn hsize rfl
    rw [UInt8.toNat_ofNat_of_lt' hsize] at hlow
    omega
  rw [← Char.toNat_inj, Byte.char_toNat]
  unfold String.utf8EncodeChar at hmem
  simp only at hmem
  split at hmem
  case isTrue hone =>
      rw [List.mem_singleton.mp hmem, UInt8.toNat_ofNat_of_lt' (show _ < 256 by omega)]
      rfl
  case isFalse =>
      exfalso
      split_ifs at hmem <;> simp only [List.mem_cons, List.not_mem_nil, or_false] at hmem
      · rcases hmem with h | h <;> exact hhigh _ (by omega) (by omega) h
      · rcases hmem with h | h | h <;> exact hhigh _ (by omega) (by omega) h
      · rcases hmem with h | h | h | h <;> exact hhigh _ (by omega) (by omega) h

/-- Bytes of ASCII are a text. -/
theorem exists_text_of_ascii (h : ∀ b ∈ bytes, b < 0x80) : ∃ text, ofString text = bytes := by
  refine ⟨String.ofList (bytes.map Byte.char), ?_⟩
  rw [ofString_ofList, List.flatMap_map]
  calc bytes.flatMap (fun b => String.utf8EncodeChar (Byte.char b))
      = bytes.flatMap (fun b => [b]) := List.flatMap_congr fun b hb => utf8_char (h b hb)
    _ = bytes := List.flatMap_singleton' bytes

/-- A byte of ASCII in the UTF-8 form of a text is one of its characters. -/
theorem char_mem_of_mem_ofString {b : UInt8} (hmem : b ∈ ofString text) (hb : b < 0x80) :
    Byte.char b ∈ text.toList := by
  rw [ofString_eq] at hmem
  obtain ⟨c, hc, hbyte⟩ := List.mem_flatMap.mp hmem
  rw [← char_of_mem_utf8 hbyte hb]
  exact hc

end Bytes

end ModuleMapper
