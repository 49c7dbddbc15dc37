/-!
# Doubles

Binary numbers of sixty-four bits, kept as their bits: the program stores and compares
coordinates and never computes with them. A decimal is read to the nearest double, a half going
to the even neighbour. A double is written with the fewest digits that read back to it.
-/

namespace LayerPress

/-- A double by its bits: sign, eleven exponent bits, fifty-two fraction bits. -/
structure Double where
  bits : UInt64
  deriving DecidableEq, Repr, Inhabited

namespace Double

/-- The sign bit is set. -/
def isNegative (d : Double) : Bool :=
  Nat.pow 2 63 ≤ d.bits.toNat

/-- The biased exponent. -/
def exponentBits (d : Double) : Nat :=
  d.bits.toNat / Nat.pow 2 52 % Nat.pow 2 11

/-- The fraction below the leading bit. -/
def fractionBits (d : Double) : Nat :=
  d.bits.toNat % Nat.pow 2 52

/-- All exponent bits and some fraction bit are set. -/
def isNaN (d : Double) : Bool :=
  d.exponentBits == 2047 && d.fractionBits != 0

/-- Neither an infinity nor a NaN. -/
def isFinite (d : Double) : Bool :=
  d.exponentBits != 2047

/-- Either zero. -/
def isZero (d : Double) : Bool :=
  d.bits.toNat % Nat.pow 2 63 == 0

/-- The positive zero. -/
def zero : Double := ⟨0⟩

/-- The double with a sign and the sixty-three other bits. -/
def ofMagnitude (negative : Bool) (magnitude : Nat) : Double :=
  ⟨UInt64.ofNat (magnitude + if negative then Nat.pow 2 63 else 0)⟩

/-- The bits of infinity. -/
def infinityBits : Nat := 2047 * Nat.pow 2 52

/-- An infinity. -/
def infinite (negative : Bool) : Double :=
  ofMagnitude negative infinityBits

/-- The quiet NaN. -/
def notANumber : Double :=
  ofMagnitude false (infinityBits + Nat.pow 2 51)

/-- The quotient to the nearest integer, a half going to the even one. -/
def roundDiv (num den : Nat) : Nat :=
  let q := num / den
  let r := num % den
  if 2 * r < den then q
  else if den < 2 * r then q + 1
  else q + q % 2

/-- The bits of the double nearest to a positive quotient. -/
def magnitudeOfRatio (num den : Nat) : Nat :=
  let low : Int := (num.log2 : Int) - den.log2 - 53
  let scaled (e : Int) : Nat × Nat := (num * Nat.pow 2 (-e).toNat, den * Nat.pow 2 e.toNat)
  let tight := scaled low
  let e := max (if Nat.pow 2 53 ≤ tight.1 / tight.2 then low + 1 else low) (-1074)
  let quotient := scaled e
  min ((e + 1074).toNat * Nat.pow 2 52 + roundDiv quotient.1 quotient.2) infinityBits

/-- The double nearest to a decimal, whose digits stand before a power of ten. -/
def ofDecimal (negative : Bool) (digits : Nat) (exponent : Int) : Double :=
  let size := (Nat.toDigits 10 digits).length + exponent
  if digits = 0 || size < -400 then ofMagnitude negative 0
  else if 400 < size then infinite negative
  else ofMagnitude negative
    (magnitudeOfRatio (digits * Nat.pow 10 exponent.toNat) (Nat.pow 10 (-exponent).toNat))

/-- A finite magnitude as a whole number of units and the power of two of a unit. -/
def parts (d : Double) : Nat × Int :=
  if d.exponentBits = 0 then (d.fractionBits, -1074)
  else (d.fractionBits + Nat.pow 2 52, (d.exponentBits : Int) - 1075)

/-- The largest power of ten not above a positive quotient. -/
def decimalExponent (num den : Nat) : Int :=
  let guess : Int := (((num.log2 : Int) - den.log2 - 1) * 30103).fdiv 100000
  let reaches (e : Int) : Bool := den * Nat.pow 10 e.toNat ≤ num * Nat.pow 10 (-e).toNat
  if reaches (guess + 2) then guess + 2
  else if reaches (guess + 1) then guess + 1
  else if reaches guess then guess
  else guess - 1

/-- The grid point of a decimal place that reads back to a magnitude, the nearer of two and the
even of two equally near. The magnitude is a number of quarter units; the unit below it is half
as wide when it is a power of two. -/
def gridPoint? (quarters : Nat) (below : Nat) (closed : Bool) (power : Int) (place : Int) :
    Option Nat :=
  let step := Nat.pow 2 (-power).toNat * Nat.pow 10 place.toNat
  let quarter := Nat.pow 2 power.toNat * Nat.pow 10 (-place).toNat
  let reads (c : Nat) : Bool :=
    if closed then (quarters - below) * quarter ≤ c * step && c * step ≤ (quarters + 2) * quarter
    else (quarters - below) * quarter < c * step && c * step < (quarters + 2) * quarter
  let floor := quarters * quarter / step
  let toFloor := quarters * quarter - floor * step
  let toNext := (floor + 1) * step - quarters * quarter
  if reads floor && reads (floor + 1) then
    if toFloor < toNext then some floor
    else if toNext < toFloor then some (floor + 1)
    else some (floor + floor % 2)
  else if reads floor then some floor
  else if reads (floor + 1) then some (floor + 1)
  else none

/-- The first place, from the given one downwards, with a grid point that reads back. -/
def firstGridPoint (quarters below : Nat) (closed : Bool) (power : Int) :
    Nat → Int → Nat × Int
  | 0, place => (quarters, place)
  | tries + 1, place =>
    match gridPoint? quarters below closed power place with
    | some c => (c, place)
    | none => firstGridPoint quarters below closed power tries (place - 1)

/-- Trailing zeros moved from the digits to the exponent. -/
def dropZeros : Nat → Nat → Int → Nat × Int
  | 0, digits, exponent => (digits, exponent)
  | fuel + 1, digits, exponent =>
    if digits % 10 = 0 ∧ digits ≠ 0 then dropZeros fuel (digits / 10) (exponent + 1)
    else (digits, exponent)

/-- The shortest decimal that reads back to a finite nonzero magnitude. -/
def shortest (d : Double) : Nat × Int :=
  let (units, power) := d.parts
  let quarters := 4 * units
  let below := if d.fractionBits = 0 ∧ 1 < d.exponentBits then 1 else 2
  let top := decimalExponent (units * Nat.pow 2 power.toNat) (Nat.pow 2 (-power).toNat)
  let found := firstGridPoint quarters below (units % 2 = 0) (power - 2) 17 top
  dropZeros 20 found.1 found.2

/-- A decimal with a point between 0.00001 and 10^16, and with an exponent outside. -/
def layout (digits : List Char) (exponent : Int) : List Char :=
  let point : Int := digits.length + exponent
  if 0 ≤ exponent ∧ point ≤ 16 then
    digits ++ List.replicate exponent.toNat '0' ++ ['.', '0']
  else if 0 < point ∧ point ≤ 16 then
    digits.take point.toNat ++ ['.'] ++ digits.drop point.toNat
  else if -5 < point ∧ point ≤ 0 then
    ['0', '.'] ++ List.replicate (-point).toNat '0' ++ digits
  else
    let mantissa := match digits with
      | [d] => [d]
      | d :: rest => d :: '.' :: rest
      | [] => []
    let power := point - 1
    mantissa ++ ['e', if power < 0 then '-' else '+'] ++ Nat.toDigits 10 power.natAbs

/-- The text of a finite double; other doubles have no number text. -/
def text? (d : Double) : Option String :=
  if !d.isFinite then none
  else
    let sign := if d.isNegative then ['-'] else []
    if d.isZero then some (String.ofList (sign ++ ['0', '.', '0']))
    else
      let (digits, exponent) := d.shortest
      some (String.ofList (sign ++ layout (Nat.toDigits 10 digits) exponent))

end Double

end LayerPress
