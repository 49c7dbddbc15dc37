import LayerPress.Proofs.TextBytes
import Mathlib.Data.Char
import Mathlib.Data.List.Basic

/-!
# Bytes that are text

The strict reader accepts the bytes of a text and no others, and reads them as this text. The
ranges that it allows for the byte after the first exclude what no encoding writes: a longer
form than needed, half of a surrogate pair, and what is above the last character.
-/

namespace LayerPress.Text.Utf8

variable {b : UInt8} {rest : List UInt8} {l : Lead} {low high : UInt8} {more bits n : Nat}

/-! ## Leading bytes and what follows them -/

/-- The announcement of a byte depends on its number. -/
theorem lead?_eq (b : UInt8) : lead? b =
    if 0xc2 ≤ b.toNat ∧ b.toNat ≤ 0xdf then some ⟨1, 0x80, 0xbf, b.toNat - 0xc0⟩
    else if b.toNat = 0xe0 then some ⟨2, 0xa0, 0xbf, 0⟩
    else if b.toNat = 0xed then some ⟨2, 0x80, 0x9f, 13⟩
    else if 0xe1 ≤ b.toNat ∧ b.toNat ≤ 0xef then some ⟨2, 0x80, 0xbf, b.toNat - 0xe0⟩
    else if b.toNat = 0xf0 then some ⟨3, 0x90, 0xbf, 0⟩
    else if 0xf1 ≤ b.toNat ∧ b.toNat ≤ 0xf3 then some ⟨3, 0x80, 0xbf, b.toNat - 0xf0⟩
    else if b.toNat = 0xf4 then some ⟨3, 0x80, 0x8f, 4⟩
    else none := by
  simp only [lead?, Bool.and_eq_true, decide_eq_true_eq, beq_iff_eq, UInt8.le_iff_toNat_le,
    ← UInt8.toNat_inj]
  rfl

/-- A byte in the range that is allowed is followed. -/
theorem follow_cons (hlow : low.toNat ≤ b.toNat) (hhigh : b.toNat ≤ high.toNat) :
    follow (more + 1) low high bits (b :: rest) =
      follow more 0x80 0xbf (bits * 64 + (b.toNat - 0x80)) rest := by
  rw [follow, if_pos]
  simpa [UInt8.le_iff_toNat_le] using ⟨hlow, hhigh⟩

/-- Where a code point is read, the next byte is there and in the range that is allowed. -/
theorem exists_of_follow {bytes : List UInt8}
    (h : (follow (more + 1) low high bits bytes).1 = some n) :
    ∃ b rest, bytes = b :: rest ∧ low.toNat ≤ b.toNat ∧ b.toNat ≤ high.toNat ∧
      follow (more + 1) low high bits bytes =
        follow more 0x80 0xbf (bits * 64 + (b.toNat - 0x80)) rest := by
  cases bytes with
  | nil => cases h
  | cons b rest =>
    by_cases hrange : low.toNat ≤ b.toNat ∧ b.toNat ≤ high.toNat
    · exact ⟨b, rest, rfl, hrange.1, hrange.2, follow_cons hrange.1 hrange.2⟩
    · rw [follow, if_neg (by simpa [UInt8.le_iff_toNat_le] using hrange)] at h
      cases h

/-- A first byte that is not ASCII announces a character. -/
theorem scan_cons_of_lead (hb : 0x80 ≤ b.toNat) (hl : lead? b = some l) :
    scan (b :: rest) = (follow l.more l.low l.high l.bits rest).1.map Char.ofNat ::
      scan (follow l.more l.low l.high l.bits rest).2 := by
  rw [scan, if_neg (by simpa [UInt8.lt_iff_toNat_lt] using hb), hl]

/-! ## Characters -/

/-- A code point is that of a character unless it belongs to a surrogate pair. -/
theorem toNat_ofNat (h : n < 0xd800 ∨ 0xdfff < n ∧ n < 0x110000) : (Char.ofNat n).toNat = n := by
  have hvalid : n.isValidChar := h
  rw [Char.ofNat, dif_pos hvalid]
  rfl

/-- The code point of a character does not belong to a surrogate pair. -/
theorem toNat_valid (c : Char) :
    c.toNat < 0xd800 ∨ 0xdfff < c.toNat ∧ c.toNat < 0x110000 := c.valid

/-- Of a character of two bytes the first announces one more. -/
theorem lead_two (hlow : 0x80 ≤ n) (hhigh : n ≤ 0x7ff) :
    lead? (UInt8.ofNat (n / 64 % 32 + 192)) = some ⟨1, 0x80, 0xbf, n / 64⟩ := by
  have hfirst : (UInt8.ofNat (n / 64 % 32 + 192)).toNat = n / 64 + 192 := by simp; omega
  rw [lead?_eq, hfirst, if_pos (by omega), Nat.add_sub_cancel]

/-- Of a character of three bytes the first announces two more, in a range where the second is. -/
theorem exists_lead_three (hlow : 0x800 ≤ n) (hhigh : n ≤ 0xffff)
    (hvalid : n < 0xd800 ∨ 0xdfff < n) :
    ∃ low high, lead? (UInt8.ofNat (n / 4096 % 16 + 224)) = some ⟨2, low, high, n / 4096⟩ ∧
      low.toNat ≤ (UInt8.ofNat (n / 64 % 64 + 128)).toNat ∧
      (UInt8.ofNat (n / 64 % 64 + 128)).toNat ≤ high.toNat := by
  have hfirst : (UInt8.ofNat (n / 4096 % 16 + 224)).toNat = n / 4096 + 224 := by simp; omega
  have hsecond : (UInt8.ofNat (n / 64 % 64 + 128)).toNat = n / 64 % 64 + 128 := by simp; omega
  rw [lead?_eq, hfirst, hsecond, if_neg (by omega)]
  by_cases hleast : n / 4096 = 0
  · exact ⟨0xa0, 0xbf, by rw [if_pos (by omega), hleast], by simp; omega, by simp; omega⟩
  rw [if_neg (by omega)]
  by_cases hpairs : n / 4096 = 13
  · exact ⟨0x80, 0x9f, by rw [if_pos (by omega), hpairs], by simp, by simp; omega⟩
  rw [if_neg (by omega), if_pos (by omega)]
  exact ⟨0x80, 0xbf, by simp, by simp, by simp; omega⟩

/-- Of a character of four bytes the first announces three more, in a range where the second is. -/
theorem exists_lead_four (hlow : 0x10000 ≤ n) (hhigh : n < 0x110000) :
    ∃ low high, lead? (UInt8.ofNat (n / 262144 % 8 + 240)) = some ⟨3, low, high, n / 262144⟩ ∧
      low.toNat ≤ (UInt8.ofNat (n / 4096 % 64 + 128)).toNat ∧
      (UInt8.ofNat (n / 4096 % 64 + 128)).toNat ≤ high.toNat := by
  have hfirst : (UInt8.ofNat (n / 262144 % 8 + 240)).toNat = n / 262144 + 240 := by simp; omega
  have hsecond : (UInt8.ofNat (n / 4096 % 64 + 128)).toNat = n / 4096 % 64 + 128 := by simp; omega
  rw [lead?_eq, hfirst, hsecond, if_neg (by omega), if_neg (by omega), if_neg (by omega),
    if_neg (by omega)]
  by_cases hleast : n / 262144 = 0
  · exact ⟨0x90, 0xbf, by rw [if_pos (by omega), hleast], by simp; omega, by simp; omega⟩
  rw [if_neg (by omega)]
  by_cases hmost : n / 262144 = 4
  · exact ⟨0x80, 0x8f, by rw [if_neg (by omega), if_pos (by omega), hmost], by simp,
      by simp; omega⟩
  rw [if_pos (by omega)]
  exact ⟨0x80, 0xbf, by simp, by simp, by simp; omega⟩

/-- The bytes of a character are read as this character. -/
theorem scan_utf8EncodeChar (c : Char) (rest : List UInt8) :
    scan (String.utf8EncodeChar c ++ rest) = some c :: scan rest := by
  have hvalid := toNat_valid c
  have hread : ∀ n, n = c.toNat → Char.ofNat n = c := by
    rintro n rfl
    exact Char.ofNat_toNat c
  rw [String.utf8EncodeChar]
  simp only [Char.toNat_val]
  split
  · rw [List.singleton_append, scan, if_pos, hread _ (by simp; omega)]
    simp [UInt8.lt_iff_toNat_lt]
    omega
  split
  · have hlead := lead_two (n := c.toNat) (by omega) (by omega)
    rw [List.cons_append, List.cons_append, List.nil_append, scan_cons_of_lead _ hlead, follow_cons,
      follow, Option.map_some, hread]
    all_goals simp
    all_goals omega
  split
  · obtain ⟨low, high, hlead, hlow, hhigh⟩ :=
      exists_lead_three (n := c.toNat) (by omega) (by omega) (by omega)
    rw [List.cons_append, List.cons_append, List.cons_append, List.nil_append,
      scan_cons_of_lead _ hlead, follow_cons hlow hhigh, follow_cons, follow, Option.map_some,
      hread]
    all_goals simp
    all_goals omega
  · obtain ⟨low, high, hlead, hlow, hhigh⟩ :=
      exists_lead_four (n := c.toNat) (by omega) (by omega)
    rw [List.cons_append, List.cons_append, List.cons_append, List.cons_append, List.nil_append,
      scan_cons_of_lead _ hlead, follow_cons hlow hhigh, follow_cons, follow_cons, follow,
      Option.map_some, hread]
    all_goals simp
    all_goals omega

/-- A byte is written as its number. -/
theorem ofNat_eq {m : Nat} (h : m = b.toNat) : UInt8.ofNat m = b := by
  rw [h]
  exact UInt8.ofNat_toNat

/-- Two bytes in their ranges are those of a character. -/
theorem utf8EncodeChar_two (b b₁ : UInt8) (hb : 0xc2 ≤ b.toNat ∧ b.toNat ≤ 0xdf)
    (hb₁ : 0x80 ≤ b₁.toNat ∧ b₁.toNat ≤ 0xbf)
    (hn : n = (b.toNat - 0xc0) * 64 + (b₁.toNat - 0x80)) :
    String.utf8EncodeChar (Char.ofNat n) = [b, b₁] := by
  rw [String.utf8EncodeChar, Char.toNat_val, toNat_ofNat (by omega), if_neg (by omega),
    if_pos (by omega), ofNat_eq (b := b) (by omega), ofNat_eq (b := b₁) (by omega)]

/-- Three bytes in their ranges are those of a character, if they need to be three and are no half
of a surrogate pair. -/
theorem utf8EncodeChar_three (b b₁ b₂ : UInt8) (hb : 0xe0 ≤ b.toNat ∧ b.toNat ≤ 0xef)
    (hb₁ : 0x80 ≤ b₁.toNat ∧ b₁.toNat ≤ 0xbf) (hb₂ : 0x80 ≤ b₂.toNat ∧ b₂.toNat ≤ 0xbf)
    (hn : n = ((b.toNat - 0xe0) * 64 + (b₁.toNat - 0x80)) * 64 + (b₂.toNat - 0x80))
    (hneeded : 0x800 ≤ n) (hvalid : n < 0xd800 ∨ 0xdfff < n) :
    String.utf8EncodeChar (Char.ofNat n) = [b, b₁, b₂] := by
  rw [String.utf8EncodeChar, Char.toNat_val, toNat_ofNat (by omega), if_neg (by omega),
    if_neg (by omega), if_pos (by omega), ofNat_eq (b := b) (by omega),
    ofNat_eq (b := b₁) (by omega), ofNat_eq (b := b₂) (by omega)]

/-- Four bytes in their ranges are those of a character, if they need to be four and there is such
a character. -/
theorem utf8EncodeChar_four (b b₁ b₂ b₃ : UInt8) (hb : 0xf0 ≤ b.toNat ∧ b.toNat ≤ 0xf4)
    (hb₁ : 0x80 ≤ b₁.toNat ∧ b₁.toNat ≤ 0xbf) (hb₂ : 0x80 ≤ b₂.toNat ∧ b₂.toNat ≤ 0xbf)
    (hb₃ : 0x80 ≤ b₃.toNat ∧ b₃.toNat ≤ 0xbf)
    (hn : n = (((b.toNat - 0xf0) * 64 + (b₁.toNat - 0x80)) * 64 + (b₂.toNat - 0x80)) * 64 +
      (b₃.toNat - 0x80))
    (hneeded : 0x10000 ≤ n) (hvalid : n < 0x110000) :
    String.utf8EncodeChar (Char.ofNat n) = [b, b₁, b₂, b₃] := by
  rw [String.utf8EncodeChar, Char.toNat_val, toNat_ofNat (by omega), if_neg (by omega),
    if_neg (by omega), if_neg (by omega), ofNat_eq (b := b) (by omega),
    ofNat_eq (b := b₁) (by omega), ofNat_eq (b := b₂) (by omega), ofNat_eq (b := b₃) (by omega)]

/-- A first byte and two that are read after it are the bytes of a character, if the range of the
first of them excludes what no character needs and what is half of a surrogate pair. -/
theorem utf8EncodeChar_of_follow_two (hb : 0xe0 ≤ b.toNat ∧ b.toNat ≤ 0xef)
    (hbits : bits = b.toNat - 0xe0) (hrange : 0x80 ≤ low.toNat ∧ high.toNat ≤ 0xbf)
    (hneeded : b.toNat = 0xe0 → 0xa0 ≤ low.toNat) (hpairs : b.toNat = 0xed → high.toNat ≤ 0x9f)
    (h : (follow 2 low high bits rest).1 = some n) :
    b :: rest = String.utf8EncodeChar (Char.ofNat n) ++ (follow 2 low high bits rest).2 := by
  obtain ⟨b₁, rest, rfl, hlow, hhigh, hfirst⟩ := exists_of_follow h
  rw [hfirst] at h ⊢
  obtain ⟨b₂, rest, rfl, hlow₂, hhigh₂, hsecond⟩ := exists_of_follow h
  rw [hsecond, follow] at h ⊢
  simp only [UInt8.reduceToNat] at hlow₂ hhigh₂
  have hn := (Option.some_inj.mp h).symm
  rw [hbits] at hn
  rw [utf8EncodeChar_three b b₁ b₂ hb (by omega) (by omega) hn (by omega) (by omega)]
  rfl

/-- A first byte and three that are read after it are the bytes of a character, if the range of the
first of them excludes what no character needs and what is above the last one. -/
theorem utf8EncodeChar_of_follow_three (hb : 0xf0 ≤ b.toNat ∧ b.toNat ≤ 0xf4)
    (hbits : bits = b.toNat - 0xf0) (hrange : 0x80 ≤ low.toNat ∧ high.toNat ≤ 0xbf)
    (hneeded : b.toNat = 0xf0 → 0x90 ≤ low.toNat) (hlast : b.toNat = 0xf4 → high.toNat ≤ 0x8f)
    (h : (follow 3 low high bits rest).1 = some n) :
    b :: rest = String.utf8EncodeChar (Char.ofNat n) ++ (follow 3 low high bits rest).2 := by
  obtain ⟨b₁, rest, rfl, hlow, hhigh, hfirst⟩ := exists_of_follow h
  rw [hfirst] at h ⊢
  obtain ⟨b₂, rest, rfl, hlow₂, hhigh₂, hsecond⟩ := exists_of_follow h
  rw [hsecond] at h ⊢
  obtain ⟨b₃, rest, rfl, hlow₃, hhigh₃, hthird⟩ := exists_of_follow h
  rw [hthird, follow] at h ⊢
  simp only [UInt8.reduceToNat] at hlow₂ hhigh₂ hlow₃ hhigh₃
  have hn := (Option.some_inj.mp h).symm
  rw [hbits] at hn
  rw [utf8EncodeChar_four b b₁ b₂ b₃ hb (by omega) (by omega) (by omega) hn (by omega)
    (by omega)]
  rfl

/-- An announced byte and those that are read after it are the bytes of a character. -/
theorem utf8EncodeChar_of_follow (hl : lead? b = some l)
    (h : (follow l.more l.low l.high l.bits rest).1 = some n) :
    b :: rest = String.utf8EncodeChar (Char.ofNat n) ++
      (follow l.more l.low l.high l.bits rest).2 := by
  rw [lead?_eq] at hl
  split at hl
  · cases hl
    obtain ⟨b₁, rest, rfl, hlow, hhigh, hfollow⟩ := exists_of_follow h
    rw [hfollow, follow] at h ⊢
    simp only [UInt8.reduceToNat] at hlow hhigh
    rw [utf8EncodeChar_two b b₁ (by omega) (by omega) (Option.some_inj.mp h).symm]
    rfl
  -- Three bytes: the least first byte, the one of the surrogate pairs, and the others.
  split at hl
  · cases hl
    dsimp only at h ⊢
    exact utf8EncodeChar_of_follow_two (by omega) (by omega) (by decide) (fun _ => by decide)
      (by omega) h
  split at hl
  · cases hl
    dsimp only at h ⊢
    exact utf8EncodeChar_of_follow_two (by omega) (by omega) (by decide) (by omega)
      (fun _ => by decide) h
  split at hl
  · cases hl
    dsimp only at h ⊢
    exact utf8EncodeChar_of_follow_two (by omega) rfl (by decide) (by omega) (by omega) h
  -- Four bytes: the least first byte, the others, and the greatest.
  split at hl
  · cases hl
    dsimp only at h ⊢
    exact utf8EncodeChar_of_follow_three (by omega) (by omega) (by decide) (fun _ => by decide)
      (by omega) h
  split at hl
  · cases hl
    dsimp only at h ⊢
    exact utf8EncodeChar_of_follow_three (by omega) rfl (by decide) (by omega) (by omega) h
  split at hl
  · cases hl
    dsimp only at h ⊢
    exact utf8EncodeChar_of_follow_three (by omega) (by omega) (by decide) (by omega)
      (fun _ => by decide) h
  · cases hl

/-! ## Texts -/

/-- The bytes of a text are read as its characters. -/
theorem scan_encode (s : String) : scan (encode s) = s.toList.map some := by
  rw [encode_eq]
  induction s.toList with
  | nil => rw [List.flatMap_nil, scan, List.map_nil]
  | cons c rest ih => rw [List.flatMap_cons, scan_utf8EncodeChar, ih, List.map_cons]

/-- Bytes in which no part is damaged are those of the characters that are read. -/
theorem eq_flatMap_of_scan {bytes : List UInt8} {cs : List Char} (h : scan bytes = cs.map some) :
    bytes = cs.flatMap String.utf8EncodeChar := by
  induction bytes using scan.induct generalizing cs with
  | case1 =>
    rw [scan] at h
    rw [List.map_eq_nil_iff.mp h.symm, List.flatMap_nil]
  | case2 b rest hb ih =>
    rw [scan, if_pos hb] at h
    obtain ⟨c, cs, rfl, hc, hrest⟩ := List.map_eq_cons_iff.mp h.symm
    rw [UInt8.lt_iff_toNat_lt] at hb
    have hnumber : (Char.ofNat b.toNat).toNat = b.toNat :=
      toNat_ofNat (.inl (Nat.lt_trans hb (by decide)))
    rw [List.flatMap_cons, Option.some_inj.mp hc, utf8EncodeChar_of_lt (by rwa [hnumber]), hnumber,
      UInt8.ofNat_toNat, ← ih hrest.symm, List.singleton_append]
  | case3 b rest hb hl ih =>
    rw [scan, if_neg hb, hl] at h
    obtain ⟨_, _, -, hc, -⟩ := List.map_eq_cons_iff.mp h.symm
    cases hc
  | case4 b rest hb l hl ih =>
    rw [scan, if_neg hb, hl] at h
    obtain ⟨c, cs, rfl, hc, hrest⟩ := List.map_eq_cons_iff.mp h.symm
    obtain ⟨n, hn, rfl⟩ := Option.map_eq_some_iff.mp hc.symm
    rw [List.flatMap_cons, ← ih hrest.symm]
    exact utf8EncodeChar_of_follow hl hn

/-- Parts are characters all together if each of them is one. -/
theorem mapM_id_eq_some_iff {parts : List (Option Char)} {cs : List Char} :
    parts.mapM id = some cs ↔ parts = cs.map some := by
  induction parts generalizing cs with
  | nil => cases cs <;> simp
  | cons part rest ih =>
    rw [List.mapM_cons]
    cases part with
    | none => cases cs <;> simp
    | some c =>
      simp only [id_eq, Option.pure_def, Option.bind_eq_bind, Option.bind_some,
        Option.bind_eq_some_iff, Option.some.injEq, ih]
      constructor
      · rintro ⟨cs, rfl, rfl⟩
        rfl
      · intro h
        obtain ⟨c', cs', rfl, hc, hrest⟩ := List.map_eq_cons_iff.mp h.symm
        exact ⟨cs', hrest.symm, by rw [Option.some_inj.mp hc]⟩

/-- The strict reader reads the bytes of a text, and nothing else, as this text. -/
theorem decode?_eq_some_iff {bytes : List UInt8} {s : String} :
    decode? bytes = some s ↔ bytes = encode s := by
  constructor
  · intro h
    obtain ⟨cs, hcs, rfl⟩ := Option.map_eq_some_iff.mp h
    rw [encode_eq, String.toList_ofList]
    exact eq_flatMap_of_scan (mapM_id_eq_some_iff.mp hcs)
  · rintro rfl
    rw [decode?, scan_encode, mapM_id_eq_some_iff.mpr rfl, Option.map_some, String.ofList_toList]

end LayerPress.Text.Utf8
