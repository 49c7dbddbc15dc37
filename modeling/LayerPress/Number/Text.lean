import LayerPress.Json.Reader

/-!
# Doubles written in words

The spellings of a double outside documents: a decimal with an optional sign, an infinity, or a
NaN.
-/

namespace LayerPress.Double

/-- The double a text spells. -/
def ofText? (s : String) : Option Double :=
  let (negative, body) := match s.toList with
    | '-' :: rest => (true, rest)
    | '+' :: rest => (false, rest)
    | cs => (false, cs)
  let small := String.ofList (body.map fun c =>
    if 'A' ≤ c ∧ c ≤ 'Z' then Char.ofNat (c.toNat + 32) else c)
  if small = "nan" then some notANumber
  else if small = "inf" ∨ small = "infinity" then some (infinite negative)
  else
    let cs := small.toList
    let whole := cs.takeWhile Json.isDigit
    let (places, rest) := match cs.dropWhile Json.isDigit with
      | '.' :: rest => (rest.takeWhile Json.isDigit, rest.dropWhile Json.isDigit)
      | rest => ([], rest)
    match Json.exponent? rest with
    | some (exponent, []) =>
      if (whole ++ places).isEmpty then none
      else some (ofDecimal negative (Json.digitsValue (whole ++ places))
        (exponent.getD 0 - places.length))
    | _ => none

end LayerPress.Double
