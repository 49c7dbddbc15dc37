/-!
# Identifiers

A UUID is a word of one hundred and twenty-eight bits. It is printed as five groups of
lower-case hexadecimal digits, and read in four spellings: the digits alone, the groups, the
groups in braces, and the groups after their URN.
-/

namespace LayerPress

/-- A universally unique identifier. -/
structure Uuid where
  bits : BitVec 128
  deriving DecidableEq, Repr, Inhabited

namespace Uuid

/-- The identifier of a number below 2^128. -/
def ofNat (n : Nat) : Uuid := ⟨BitVec.ofNat 128 n⟩

/-- The hexadecimal digits, most significant first. -/
def digits (u : Uuid) : List Char :=
  let ds := Nat.toDigits 16 u.bits.toNat
  List.replicate (32 - ds.length) '0' ++ ds

/-- Thirty-two characters in groups of eight, four, four, four and twelve. -/
def group (cs : List Char) : List Char :=
  cs.take 8 ++ '-' :: (cs.drop 8).take 4 ++ '-' :: (cs.drop 12).take 4 ++
    '-' :: (cs.drop 16).take 4 ++ '-' :: cs.drop 20

/-- The printed form. -/
def text (u : Uuid) : String :=
  String.ofList (group u.digits)

/-- The value of a hexadecimal digit of either case. -/
def digitValue? (c : Char) : Option Nat :=
  if '0' ≤ c ∧ c ≤ '9' then some (c.toNat - '0'.toNat)
  else if 'a' ≤ c ∧ c ≤ 'f' then some (c.toNat - 'a'.toNat + 10)
  else if 'A' ≤ c ∧ c ≤ 'F' then some (c.toNat - 'A'.toNat + 10)
  else none

/-- The number of a list of hexadecimal digits. -/
def ofDigits? (cs : List Char) : Option Nat :=
  cs.foldlM (fun n c => (digitValue? c).map (n * 16 + ·)) 0

/-- Thirty-two digits. -/
def ofSimple? (cs : List Char) : Option Uuid :=
  if cs.length = 32 then (ofDigits? cs).map ofNat else none

/-- The digits of a grouped form, whose hyphens stand in their places. -/
def ungroup? (cs : List Char) : Option (List Char) :=
  let ds := cs.take 8 ++ (cs.drop 9).take 4 ++ (cs.drop 14).take 4 ++ (cs.drop 19).take 4 ++
    cs.drop 24
  if cs.length = 36 ∧ cs = group ds then some ds else none

/-- Five groups of digits. -/
def ofGrouped? (cs : List Char) : Option Uuid := do
  ofSimple? (← ungroup? cs)

/-- The opening of a URN. -/
def urn : List Char := "urn:uuid:".toList

/-- The opening brace. -/
def openBrace : Char := '\x7b'

/-- The closing brace. -/
def closeBrace : Char := '\x7d'

/-- Any accepted spelling of an identifier. -/
def parse? (s : String) : Option Uuid :=
  let cs := s.toList
  if cs.length = 32 then ofSimple? cs
  else if cs.length = 36 then ofGrouped? cs
  else if cs.length = 38 then
    if cs.head? = some openBrace ∧ cs.getLast? = some closeBrace then
      ofGrouped? (cs.drop 1).dropLast
    else none
  else if cs.length = 45 then
    if cs.take 9 = urn then ofGrouped? (cs.drop 9) else none
  else none

end Uuid

end LayerPress
