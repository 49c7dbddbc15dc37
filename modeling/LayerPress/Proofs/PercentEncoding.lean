import LayerPress.Catalog.Url
import LayerPress.Proofs.TextBytes

/-!
# What a percent-encoded text stands for

Where a reader encodes some characters of a text, the result stands for what the text itself stands
for, as long as percent signs and hexadecimal digits are left alone. A text without escapes stands
for its own bytes; with an escape it stands for fewer.
-/

namespace LayerPress.Text.Percent

open Url (encodeIf)

/-- The bytes of characters. -/
def bytesOf (cs : List Char) : List UInt8 :=
  cs.flatMap String.utf8EncodeChar

/-- A text begins with a percent sign and two hexadecimal digits. -/
def opensEscape : List Char → Bool
  | c :: d :: e :: _ => c == '%' && (Json.hexValue? d).isSome && (Json.hexValue? e).isSome
  | _ => false

/-- Somewhere in a text two hexadecimal digits follow a percent sign. -/
def hasEscape : List Char → Bool
  | [] => false
  | c :: rest => opensEscape (c :: rest) || hasEscape rest

/-- Characters that are encoded without touching escapes. -/
structure SparesEscapes (p : Char → Bool) : Prop where
  percent : p '%' = false
  digits : ∀ c, (Json.hexValue? c).isSome = true → p c = false

section
variable {p : Char → Bool} {c : Char} {cs : List Char} {s : String}

/-- Without a percent sign there is no escape. -/
theorem hasEscape_of_not_mem (h : '%' ∉ cs) : hasEscape cs = false := by
  induction cs with
  | nil => rfl
  | cons c rest ih =>
    rw [List.mem_cons, not_or] at h
    rw [hasEscape, ih h.2, Bool.or_false]
    unfold opensEscape
    split
    · next heq =>
      rw [List.cons_eq_cons] at heq
      simp [← heq.1, Ne.symm h.1]
    · rfl

/-- The bytes of a text are those of its characters. -/
theorem encode_eq_bytesOf (s : String) : Utf8.encode s = bytesOf s.toList :=
  Utf8.encode_eq s

/-- The bytes of characters in two parts. -/
theorem bytesOf_append (cs more : List Char) : bytesOf (cs ++ more) = bytesOf cs ++ bytesOf more :=
  List.flatMap_append

/-- A character has a byte at least. -/
theorem length_bytesOf_cons (c : Char) (cs : List Char) :
    (bytesOf cs).length < (bytesOf (c :: cs)).length := by
  have hc : 0 < (String.utf8EncodeChar c).length :=
    List.length_pos_iff.mpr String.utf8EncodeChar_ne_nil
  rw [bytesOf, bytesOf, List.flatMap_cons, List.length_append]
  omega

/-! ## Decoding -/

/-- A character that begins no escape stands for its bytes. -/
theorem decode_cons (h : opensEscape (c :: cs) = false) :
    decode (c :: cs) = String.utf8EncodeChar c ++ decode cs := by
  cases cs with
  | nil => simp only [decode, Utf8.encode_toString, List.append_nil]
  | cons d rest =>
    cases rest with
    | nil => simp only [decode, Utf8.encode_toString]
    | cons e rest =>
      rw [decode]
      split
      · next hc hd he => simp [opensEscape, hc, hd, he] at h
      · rw [Utf8.encode_toString]

/-- An escape is decoded to one byte. -/
theorem exists_decode_of_opensEscape (h : opensEscape cs = true) :
    ∃ d e rest b, cs = '%' :: d :: e :: rest ∧ (Json.hexValue? d).isSome = true ∧
      (Json.hexValue? e).isSome = true ∧
        ∀ more, decode ('%' :: d :: e :: more) = b :: decode more := by
  unfold opensEscape at h
  split at h
  · next c d e rest =>
    rw [Bool.and_eq_true, Bool.and_eq_true, beq_iff_eq] at h
    obtain ⟨⟨rfl, hd⟩, he⟩ := h
    obtain ⟨high, hhigh⟩ := Option.isSome_iff_exists.mp hd
    obtain ⟨low, hlow⟩ := Option.isSome_iff_exists.mp he
    refine ⟨d, e, rest, UInt8.ofNat (high * 16 + low), rfl, hd, he, fun more => ?_⟩
    rw [decode, hhigh, hlow]
    rfl
  · cases h

/-- A byte that is written as an escape is read again. -/
theorem decode_encodeByte (b : UInt8) (more : List Char) :
    decode (encodeByte b ++ more) = b :: decode more := by
  have hdigit : ∀ n < 16, Json.hexValue? (hexDigit n) = some n := by decide +kernel
  have hb : b.toNat < 256 := b.toNat_lt
  have hbyte : b.toNat / 16 * 16 + b.toNat % 16 = b.toNat := by omega
  change decode ('%' :: hexDigit (b.toNat / 16) :: hexDigit (b.toNat % 16) :: more) = _
  rw [decode, hdigit _ (by omega), hdigit _ (by omega)]
  simp only [beq_self_eq_true, hbyte, UInt8.ofNat_toNat]

/-- Bytes that are written as escapes are read again. -/
theorem decode_encodeBytes (bytes : List UInt8) (more : List Char) :
    decode (bytes.flatMap encodeByte ++ more) = bytes ++ decode more := by
  induction bytes with
  | nil => rfl
  | cons b rest ih => rw [List.flatMap_cons, List.append_assoc, decode_encodeByte, ih, List.cons_append]

/-! ## Texts without escapes -/

/-- A text without escapes stands for its bytes. -/
theorem decode_of_not_hasEscape (h : hasEscape cs = false) : decode cs = bytesOf cs := by
  induction cs with
  | nil => rfl
  | cons c rest ih =>
    rw [hasEscape, Bool.or_eq_false_iff] at h
    rw [decode_cons h.1, ih h.2]
    rfl

/-- A text stands for no more bytes than it has, and for fewer if it has an escape. -/
theorem length_decode_le (cs : List Char) : (decode cs).length ≤ (bytesOf cs).length ∧
    (hasEscape cs = true → (decode cs).length < (bytesOf cs).length) := by
  induction hlength : cs.length using Nat.strongRecOn generalizing cs with
  | ind n ih =>
    cases hopens : opensEscape cs with
    | true =>
      obtain ⟨d, e, rest, b, rfl, -, -, hdecode⟩ := exists_decode_of_opensEscape hopens
      obtain ⟨hrest, -⟩ := ih rest.length (by simp [← hlength]; omega) rest rfl
      have h₁ := length_bytesOf_cons e rest
      have h₂ := length_bytesOf_cons d (e :: rest)
      have h₃ := length_bytesOf_cons '%' (d :: e :: rest)
      rw [hdecode, List.length_cons]
      exact ⟨by omega, fun _ => by omega⟩
    | false =>
      cases cs with
      | nil => exact ⟨Nat.le_refl _, nofun⟩
      | cons c rest =>
        obtain ⟨hle, hlt⟩ := ih rest.length (by simp [← hlength]) rest rfl
        rw [decode_cons hopens, hasEscape, hopens, Bool.false_or, bytesOf, List.flatMap_cons,
          List.length_append, List.length_append]
        exact ⟨Nat.add_le_add_left hle _, fun h => Nat.add_lt_add_left (hlt h) _⟩

/-! ## Encoding -/

/-- A character that is encoded begins with a percent sign. -/
theorem exists_encodeIf_cons (hc : p c = true) (cs : List Char) :
    ∃ more, encodeIf p (c :: cs) = '%' :: more := by
  have hbytes : Utf8.encode c.toString ≠ [] := by
    rw [Utf8.encode_toString]
    exact String.utf8EncodeChar_ne_nil
  obtain ⟨b, rest, hb⟩ := List.exists_cons_of_ne_nil hbytes
  rw [encodeIf, List.flatMap_cons, if_pos hc, hb]
  exact ⟨_, rfl⟩

/-- A character that is not encoded stays. -/
theorem encodeIf_cons_of_neg (hc : p c = false) (cs : List Char) :
    encodeIf p (c :: cs) = c :: encodeIf p cs := by
  rw [encodeIf, List.flatMap_cons, if_neg (by simp [hc])]
  rfl

/-- What is encoded is no hexadecimal digit. -/
theorem SparesEscapes.hexValue?_eq_none (hp : SparesEscapes p) (hc : p c = true) :
    Json.hexValue? c = none := by
  cases hvalue : Json.hexValue? c with
  | none => rfl
  | some n =>
    rw [hp.digits c (by rw [hvalue]; rfl)] at hc
    cases hc

/-- An escape is begun before an encoded text where it is before the text itself. -/
theorem opensEscape_encodeIf (hp : SparesEscapes p) (c : Char) (cs : List Char) :
    opensEscape (c :: encodeIf p cs) = opensEscape (c :: cs) := by
  have hsign : Json.hexValue? '%' = none := by decide
  cases cs with
  | nil => rfl
  | cons d rest =>
    cases hd : p d with
    | true =>
      obtain ⟨more, hmore⟩ := exists_encodeIf_cons hd rest
      rw [hmore]
      cases more <;> cases rest <;> simp [opensEscape, hsign, hp.hexValue?_eq_none hd]
    | false =>
      rw [encodeIf_cons_of_neg hd]
      cases rest with
      | nil => rfl
      | cons e rest =>
        cases he : p e with
        | true =>
          obtain ⟨more, hmore⟩ := exists_encodeIf_cons he rest
          rw [hmore]
          simp [opensEscape, hsign, hp.hexValue?_eq_none he]
        | false =>
          rw [encodeIf_cons_of_neg he]
          rfl

/-- What is encoded without touching escapes stands for what it stood for before. -/
theorem decode_encodeIf (hp : SparesEscapes p) (cs : List Char) :
    decode (encodeIf p cs) = decode cs := by
  induction hlength : cs.length using Nat.strongRecOn generalizing cs with
  | ind n ih =>
    cases cs with
    | nil => rfl
    | cons c rest =>
      have hrest := ih rest.length (by simp [← hlength]) rest rfl
      cases hc : p c with
      | true =>
        have hplain : opensEscape (c :: rest) = false := by
          refine Decidable.byContradiction fun hopens => ?_
          obtain ⟨d, e, more, b, heq, -⟩ :=
            exists_decode_of_opensEscape (eq_true_of_ne_false hopens)
          obtain ⟨rfl, -⟩ := List.cons_eq_cons.mp heq
          rw [hp.percent] at hc
          cases hc
        rw [decode_cons hplain, ← hrest, ← Utf8.encode_toString, ← decode_encodeBytes]
        rw [encodeIf, List.flatMap_cons, if_pos hc]
        rfl
      | false =>
        rw [encodeIf_cons_of_neg hc]
        cases hopens : opensEscape (c :: rest) with
        | false =>
          rw [decode_cons hopens, decode_cons ((opensEscape_encodeIf hp c rest).trans hopens), hrest]
        | true =>
          obtain ⟨d, e, more, b, heq, hd, he, hdecode⟩ := exists_decode_of_opensEscape hopens
          obtain ⟨rfl, rfl⟩ := List.cons_eq_cons.mp heq
          have hmore := ih more.length (by simp [← hlength]; omega) more rfl
          rw [encodeIf_cons_of_neg (hp.digits d hd), encodeIf_cons_of_neg (hp.digits e he), hdecode,
            hdecode, hmore]

/-- A path is encoded without touching escapes. -/
theorem sparesEscapes_encodedInPath : SparesEscapes Url.encodedInPath where
  percent := by decide
  digits c hc := by
    -- The digits are printable, and none of them is in the list of what is encoded.
    have hrange : 0x30 ≤ c.toNat ∧ c.toNat ≤ 0x66 ∧ c.toNat ≠ 0x3c ∧ c.toNat ≠ 0x3e ∧
        c.toNat ≠ 0x3f ∧ c.toNat ≠ 0x60 := by
      simp only [Json.hexValue?, Char.le_def, UInt32.le_iff_toNat_le] at hc
      change (if 0x30 ≤ c.toNat ∧ c.toNat ≤ 0x39 then _ else if 0x61 ≤ c.toNat ∧ c.toNat ≤ 0x66
        then _ else if 0x41 ≤ c.toNat ∧ c.toNat ≤ 0x46 then _ else _ : Option Nat).isSome = true at hc
      split at hc
      · omega
      split at hc
      · omega
      split at hc
      · omega
      · cases hc
    rw [Url.encodedInPath, Bool.or_eq_false_iff]
    refine ⟨?_, ?_⟩
    · simp only [Url.isOutside, Bool.or_eq_false_iff, decide_eq_false_iff_not]
      omega
    · refine Decidable.byContradiction fun hmem => ?_
      rw [Bool.not_eq_false, List.contains_iff_mem] at hmem
      simp only [List.mem_cons, List.not_mem_nil, or_false] at hmem
      rcases hmem with rfl | rfl | rfl | rfl | rfl | rfl | rfl | rfl | rfl <;>
        exact absurd hrange (by decide)

end

end LayerPress.Text.Percent
