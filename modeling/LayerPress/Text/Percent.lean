import LayerPress.Json.Reader
import LayerPress.Text.Utf8

/-!
# Percent-encoding

A percent sign with two hexadecimal digits stands for a byte; any other percent sign stands for
itself. Encoding writes a byte with two upper-case digits.
-/

namespace LayerPress.Text.Percent

/-- The bytes a percent-encoded text stands for. -/
def decode : List Char → List UInt8
  | [] => []
  | [c] => Utf8.encode c.toString
  | [c, d] => Utf8.encode c.toString ++ Utf8.encode d.toString
  | c :: d :: e :: rest =>
    match c == '%', Json.hexValue? d, Json.hexValue? e with
    | true, some high, some low => UInt8.ofNat (high * 16 + low) :: decode rest
    | _, _, _ => Utf8.encode c.toString ++ decode (d :: e :: rest)

/-- The text a percent-encoded text stands for, if its bytes are text. -/
def decodeText? (cs : List Char) : Option String :=
  Utf8.decode? (decode cs)

/-- An upper-case hexadecimal digit. -/
def hexDigit (n : Nat) : Char :=
  if n < 10 then Char.ofNat ('0'.toNat + n) else Char.ofNat ('A'.toNat + (n - 10))

/-- A byte in its encoded form. -/
def encodeByte (b : UInt8) : List Char :=
  ['%', hexDigit (b.toNat / 16), hexDigit (b.toNat % 16)]

end LayerPress.Text.Percent
