import LayerPress.Text.Utf8

/-!
# Texts as bytes

The bytes of a text are those of its characters in a row. An ASCII character is one byte, which is
found in the bytes of no other, and so is every digit of a number.
-/

namespace LayerPress.Text.Utf8

/-- The bytes of an array are collected from a place on. -/
theorem toList_loop (bytes : ByteArray) (i : Nat) (collected : List UInt8) :
    ByteArray.toList.loop bytes i collected = collected.reverse ++ bytes.data.toList.drop i := by
  by_cases hi : i < bytes.size
  · have hget : bytes.get! i = bytes.data.toList[i] := getElem!_pos bytes.data i hi
    rw [ByteArray.toList.loop.eq_def, if_pos hi, toList_loop, List.reverse_cons, List.append_assoc,
      List.singleton_append, hget, List.getElem_cons_drop]
  · have hnone : bytes.data.toList.drop i = [] := List.drop_eq_nil_of_le (Nat.not_lt.mp hi)
    rw [ByteArray.toList.loop.eq_def, if_neg hi, hnone, List.append_nil]
termination_by bytes.size - i

/-- The bytes of a text are those of its characters. -/
theorem encode_eq (s : String) : encode s = s.toList.flatMap String.utf8EncodeChar := by
  rw [encode, ByteArray.toList, toList_loop, List.drop_zero, List.reverse_nil, List.nil_append,
    String.toUTF8, ← String.utf8Encode_toList, List.utf8Encode, List.toList_data_toByteArray]

/-- The bytes of a text of one character. -/
theorem encode_toString (c : Char) : encode c.toString = String.utf8EncodeChar c := by
  rw [encode_eq, Char.toString, String.toList_singleton, List.flatMap_singleton]

/-- An ASCII character is one byte. -/
theorem utf8EncodeChar_of_lt {c : Char} (h : c.toNat < 0x80) :
    String.utf8EncodeChar c = [UInt8.ofNat c.toNat] := by
  have hle : c.val.toNat ≤ 0x7f := Nat.le_of_lt_succ h
  rw [String.utf8EncodeChar, if_pos hle]
  rfl

/-- A byte of ASCII is that of an ASCII character alone. -/
theorem eq_of_mem_utf8EncodeChar {c : Char} {b : UInt8} (h : b ∈ String.utf8EncodeChar c)
    (hb : b.toNat < 0x80) : c = Char.ofNat b.toNat := by
  rw [String.utf8EncodeChar, Char.toNat_val] at h
  split at h
  · next hle =>
    have hbyte : b.toNat = c.toNat := by
      rw [List.mem_singleton.mp h]
      exact UInt8.toNat_ofNat_of_lt' (by change c.toNat < 256; omega)
    rw [hbyte, Char.ofNat_toNat]
  · split at h
    · simp only [List.mem_cons, List.not_mem_nil, or_false] at h
      rcases h with rfl | rfl <;> simp at hb <;> omega
    · split at h
      · simp only [List.mem_cons, List.not_mem_nil, or_false] at h
        rcases h with rfl | rfl | rfl <;> simp at hb <;> omega
      · simp only [List.mem_cons, List.not_mem_nil, or_false] at h
        rcases h with rfl | rfl | rfl | rfl <;> simp at hb <;> omega

/-- A byte of ASCII in a text is that of one of its characters. -/
theorem mem_toList_of_mem_encode {s : String} {b : UInt8} (h : b ∈ encode s)
    (hb : b.toNat < 0x80) : Char.ofNat b.toNat ∈ s.toList := by
  rw [encode_eq] at h
  obtain ⟨c, hc, hmem⟩ := List.mem_flatMap.mp h
  rwa [← eq_of_mem_utf8EncodeChar hmem hb]

/-- A byte of ASCII at the end of a text is that of its last character. -/
theorem getLast?_toList_of_encode {s : String} {b : UInt8} (h : (encode s).getLast? = some b)
    (hb : b.toNat < 0x80) : s.toList.getLast? = some (Char.ofNat b.toNat) := by
  rw [encode_eq] at h
  cases hlast : s.toList.getLast? with
  | none =>
    rw [List.getLast?_eq_none_iff.mp hlast] at h
    cases h
  | some c =>
    obtain ⟨init, hs⟩ := List.getLast?_eq_some_iff.mp hlast
    rw [hs, List.flatMap_append, List.flatMap_singleton, List.getLast?_append] at h
    rcases Option.or_eq_some_iff.mp h with h | ⟨hnone, -⟩
    · rw [eq_of_mem_utf8EncodeChar (List.mem_of_getLast? h) hb]
    · exact absurd (List.getLast?_eq_none_iff.mp hnone) String.utf8EncodeChar_ne_nil
/-- The characters of a number are digits from zero to nine. -/
theorem toNat_of_mem_repr {n : Nat} {c : Char} (h : c ∈ (Nat.repr n).toList) :
    0x30 ≤ c.toNat ∧ c.toNat ≤ 0x39 := by
  rw [Nat.repr_eq_ofList_toDigits, String.toList_ofList] at h
  have hdigit := Nat.isDigit_of_mem_toDigits (by decide) (by decide) h
  rw [Char.isDigit, Bool.and_eq_true, decide_eq_true_eq, decide_eq_true_eq] at hdigit
  exact ⟨UInt32.le_iff_toNat_le.mp hdigit.1, UInt32.le_iff_toNat_le.mp hdigit.2⟩

/-- The bytes of a number stand between those of the digits zero and nine. -/
theorem mem_encode_repr {n : Nat} {b : UInt8} (h : b ∈ encode (Nat.repr n)) :
    0x30 ≤ b.toNat ∧ b.toNat ≤ 0x39 := by
  rw [encode_eq] at h
  obtain ⟨c, hc, hb⟩ := List.mem_flatMap.mp h
  obtain ⟨hlow, hhigh⟩ := toNat_of_mem_repr hc
  rw [utf8EncodeChar_of_lt (by omega), List.mem_singleton] at hb
  rw [hb, UInt8.toNat_ofNat_of_lt' (Nat.lt_of_le_of_lt hhigh (by decide))]
  exact ⟨hlow, hhigh⟩

end LayerPress.Text.Utf8
