/-!
# UTF-8

Bytes as characters. A character is announced by its first byte, which fixes the number of
bytes that follow and the range of the first of them; a run of bytes that breaks off is one
damaged part, as long as the text could still have gone on. Strict reading refuses damaged
parts, lenient reading shows each as one replacement character.
-/

namespace LayerPress.Text.Utf8

/-- The bytes of a text. -/
def encode (s : String) : List UInt8 :=
  s.toUTF8.toList

/-- What a first byte announces: how many bytes follow, the range of the first of them, and the
bits it contributes. -/
structure Lead where
  more : Nat
  low : UInt8
  high : UInt8
  bits : Nat

/-- The announcement of a byte that starts a character of several bytes. -/
def lead? (b : UInt8) : Option Lead :=
  if 0xc2 ≤ b && b ≤ 0xdf then some ⟨1, 0x80, 0xbf, b.toNat - 0xc0⟩
  else if b == 0xe0 then some ⟨2, 0xa0, 0xbf, 0⟩
  else if b == 0xed then some ⟨2, 0x80, 0x9f, 13⟩
  else if 0xe1 ≤ b && b ≤ 0xef then some ⟨2, 0x80, 0xbf, b.toNat - 0xe0⟩
  else if b == 0xf0 then some ⟨3, 0x90, 0xbf, 0⟩
  else if 0xf1 ≤ b && b ≤ 0xf3 then some ⟨3, 0x80, 0xbf, b.toNat - 0xf0⟩
  else if b == 0xf4 then some ⟨3, 0x80, 0x8f, 4⟩
  else none

/-- The bytes that follow a first byte: the code point when they are all there, and the rest. -/
def follow : Nat → UInt8 → UInt8 → Nat → List UInt8 → Option Nat × List UInt8
  | 0, _, _, bits, rest => (some bits, rest)
  | _ + 1, _, _, _, [] => (none, [])
  | more + 1, low, high, bits, b :: rest =>
    if low ≤ b && b ≤ high then follow more 0x80 0xbf (bits * 64 + (b.toNat - 0x80)) rest
    else (none, b :: rest)

/-- Reading what follows never lengthens the rest. -/
theorem follow_length_le (more : Nat) (low high : UInt8) (bits : Nat) (bytes : List UInt8) :
    (follow more low high bits bytes).2.length ≤ bytes.length := by
  induction more generalizing low high bits bytes with
  | zero => simp [follow]
  | succ more ih =>
    cases bytes with
    | nil => simp [follow]
    | cons b rest =>
      simp only [follow]
      split
      · exact Nat.le_trans (ih _ _ _ rest) (Nat.le_succ _)
      · simp

/-- The characters of the bytes, a damaged part counting as one missing character. -/
def scan : List UInt8 → List (Option Char)
  | [] => []
  | b :: rest =>
    if b < 0x80 then some (Char.ofNat b.toNat) :: scan rest
    else match lead? b with
      | none => none :: scan rest
      | some l =>
        (follow l.more l.low l.high l.bits rest).1.map Char.ofNat ::
          scan (follow l.more l.low l.high l.bits rest).2
termination_by bytes => bytes.length
decreasing_by
  · simp
  · simp
  · have := follow_length_le l.more l.low l.high l.bits rest
    simp only [List.length_cons]
    omega

/-- The text of the bytes, if no part of them is damaged. -/
def decode? (bytes : List UInt8) : Option String :=
  ((scan bytes).mapM id).map String.ofList

/-- The text of the bytes, with one replacement character per damaged part. -/
def decodeLossy (bytes : List UInt8) : String :=
  String.ofList ((scan bytes).map (·.getD (Char.ofNat 0xfffd)))

end LayerPress.Text.Utf8
