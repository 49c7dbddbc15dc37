/-!
# Timestamps

A moment of the calendar without a time zone. It is printed with no fraction when that is zero
and else with three, six or nine places, the fewest that are exact; a year outside four digits
carries its sign.
-/

namespace LayerPress

/-- A calendar moment; a leap second is second sixty. -/
structure Timestamp where
  year : Int
  month : Nat
  day : Nat
  hour : Nat
  minute : Nat
  second : Nat
  nanos : Nat
  deriving DecidableEq, Repr, Inhabited

namespace Timestamp

/-- A number with leading zeros to a width. -/
def pad (width n : Nat) : String :=
  let ds := Nat.toDigits 10 n
  String.ofList (List.replicate (width - ds.length) '0' ++ ds)

/-- The year, with a sign outside four digits. -/
def yearText (year : Int) : String :=
  if 0 ≤ year ∧ year ≤ 9999 then pad 4 year.toNat
  else (if year < 0 then "-" else "+") ++ pad 4 year.natAbs

/-- The fraction of a second. -/
def fractionText (nanos : Nat) : String :=
  if nanos = 0 then ""
  else if nanos % 1000000 = 0 then "." ++ pad 3 (nanos / 1000000)
  else if nanos % 1000 = 0 then "." ++ pad 6 (nanos / 1000)
  else "." ++ pad 9 nanos

/-- The printed form. -/
def text (t : Timestamp) : String :=
  yearText t.year ++ "-" ++ pad 2 t.month ++ "-" ++ pad 2 t.day ++ "T" ++ pad 2 t.hour ++ ":" ++
    pad 2 t.minute ++ ":" ++ pad 2 t.second ++ fractionText t.nanos

/-- A decimal digit. -/
def isDigit (c : Char) : Bool :=
  '0' ≤ c && c ≤ '9'

/-- The value of a list of digits. -/
def value (ds : List Char) : Nat :=
  ds.foldl (fun n c => n * 10 + (c.toNat - '0'.toNat)) 0

/-- A number of exactly two digits after a mark. -/
def two? (mark : Char) : List Char → Option (Nat × List Char)
  | m :: a :: b :: rest =>
    if m == mark && isDigit a && isDigit b then some (value [a, b], rest) else none
  | _ => none

/-- The nanoseconds a fraction spells; places after the ninth are dropped. -/
def fraction? : List Char → Option Nat
  | [] => some 0
  | '.' :: ds =>
    if ds.isEmpty || !ds.all isDigit then none
    else some (value ((ds ++ List.replicate 9 '0').take 9))
  | _ => none

/-- The moment a printed form spells. -/
def parse? (s : String) : Option Timestamp := do
  let (sign, cs) := match s.toList with
    | '-' :: rest => ((-1 : Int), rest)
    | '+' :: rest => (1, rest)
    | cs => (1, cs)
  let year := cs.takeWhile isDigit
  if year.isEmpty then none
  let (month, cs) ← two? '-' (cs.dropWhile isDigit)
  let (day, cs) ← two? '-' cs
  let (hour, cs) ← two? 'T' cs
  let (minute, cs) ← two? ':' cs
  let (second, cs) ← two? ':' cs
  let nanos ← fraction? cs
  return ⟨sign * value year, month, day, hour, minute, second, nanos⟩

end Timestamp

end LayerPress
