import LayerPress.Host.Stream

/-!
# Formatted output

Backslash escapes and the directives of a format. A format is used again as long as arguments
are left, and an argument that is missing counts as empty or as zero.
-/

namespace LayerPress.Host.Format

/-- The bytes of a character. -/
def charBytes (c : Char) : List UInt8 :=
  Text.Utf8.encode (String.ofList [c])

/-- The value of an octal digit. -/
def octal? (c : Char) : Option Nat :=
  if '0' ≤ c ∧ c ≤ '7' then some (c.toNat - '0'.toNat) else none

/-- At most so many octal digits read on top of a value. -/
def octals : Nat → Nat → List Char → Nat × List Char
  | _, value, [] => (value, [])
  | 0, value, cs => (value, cs)
  | n + 1, value, c :: rest =>
    match octal? c with
    | some d => octals n (value * 8 + d) rest
    | none => (value, c :: rest)

/-- The byte of a one-letter escape. -/
def letter? (c : Char) : Option UInt8 :=
  [('a', 7), ('b', 8), ('e', 27), ('f', 12), ('n', 10), ('r', 13), ('t', 9), ('v', 11),
    ('\\', 92)].lookup c

/-- What stands for the text after a backslash. -/
def escape (cs : List Char) : List UInt8 × List Char :=
  match cs with
  | [] => ([92], [])
  | c :: rest =>
    match letter? c with
    | some b => ([b], rest)
    | none =>
      if (octal? c).isSome then
        let (value, after) := octals 3 0 cs
        ([UInt8.ofNat value], after)
      else ([92], cs)

/-- A text with its escapes replaced, and whether it asks to stop there. A zero may lead three
octal digits. The number bounds the characters. -/
def unescapeWithin : Nat → List Char → List UInt8 × Bool
  | 0, _ | _, [] => ([], false)
  | fuel + 1, c :: rest =>
    if c == '\\' then
      match rest with
      | 'c' :: _ => ([], true)
      | '0' :: d :: after =>
        let (bytes, left) := escape (if (octal? d).isSome then d :: after else rest)
        let (more, stop) := unescapeWithin fuel left
        (bytes ++ more, stop)
      | _ =>
        let (bytes, left) := escape rest
        let (more, stop) := unescapeWithin fuel left
        (bytes ++ more, stop)
    else
      let (more, stop) := unescapeWithin fuel rest
      (charBytes c ++ more, stop)

/-- A text with its escapes replaced, and whether it asks to stop there. -/
def unescape (s : String) : List UInt8 × Bool :=
  unescapeWithin (s.length + 1) s.toList

/-- The number at the front. -/
def number (cs : List Char) : Nat × List Char :=
  let digits := cs.takeWhile (·.isDigit)
  (digits.foldl (fun n c => n * 10 + (c.toNat - '0'.toNat)) 0, cs.drop digits.length)

/-- The whole number a text spells, or zero. -/
def integerOf (s : String) : Int :=
  match s.toList with
  | '-' :: cs => -((number cs).1 : Int)
  | '+' :: cs => (number cs).1
  | cs => (number cs).1

/-- The value of a hexadecimal digit. -/
def hex? (c : Char) : Option Nat :=
  if c.isDigit then some (c.toNat - '0'.toNat)
  else if 'a' ≤ c ∧ c ≤ 'f' then some (c.toNat - 'a'.toNat + 10)
  else if 'A' ≤ c ∧ c ≤ 'F' then some (c.toNat - 'A'.toNat + 10)
  else none

/-- The number to a base at the front. -/
def numeral (base : Nat) (cs : List Char) : Nat × List Char :=
  let digits := (cs.map fun c => (hex? c).filter (· < base)).takeWhile Option.isSome
  (digits.foldl (fun n d => n * base + d.getD 0) 0, cs.drop digits.length)

/-- The number without a sign at the front: a zero in front makes it octal, and a zero with an
"x" hexadecimal. -/
def unsigned (cs : List Char) : Nat × List Char :=
  match cs with
  | '0' :: x :: d :: rest =>
    if (x == 'x' || x == 'X') && (hex? d).isSome then numeral 16 (d :: rest) else numeral 8 cs
  | '0' :: _ => numeral 8 cs
  | _ => numeral 10 cs

/-- A number kept within 64 bits. -/
def clamp (n : Int) : Int := max (-Int.pow 2 63) (min (Int.pow 2 63 - 1) n)

/-- The whole number at the front of a text, kept within 64 bits, and what follows it; without a
number everything follows. -/
def integer (s : String) : Int × List Char :=
  let cs := s.toList.dropWhile fun c => c == ' ' || c == '\t' || c == '\n'
  let (negative, digits) := match cs with
    | '-' :: rest => (true, rest)
    | '+' :: rest => (false, rest)
    | _ => (false, cs)
  let (n, rest) := unsigned digits
  if rest.length = digits.length then (0, s.toList)
  else (clamp (if negative then -(n : Int) else n), rest)

/-- How wide or how precise an argument is written: a number, or the argument before it. -/
inductive Extent where
  | fixed (n : Nat)
  | argument
  deriving DecidableEq, Repr

/-- How an argument is written. -/
structure Directive where
  flags : List Char
  width : Extent
  precision : Option Extent
  conversion : Char
  spelling : String
  deriving DecidableEq, Repr

/-- A part of a format. -/
inductive Item where
  | plain (bytes : List UInt8)
  | directive (d : Directive)
  | unfinished
  deriving DecidableEq, Repr

/-- The extent at the front. -/
def extent (cs : List Char) : Extent × List Char :=
  match cs with
  | '*' :: rest => (.argument, rest)
  | _ =>
    let (n, rest) := number cs
    (.fixed n, rest)

/-- The directive after a percent sign. -/
def directive? (cs : List Char) : Option (Directive × List Char) :=
  let flags := cs.takeWhile fun c => "-0+ #".contains c
  let (width, rest) := extent (cs.drop flags.length)
  let (precision, rest) : Option Extent × List Char := match rest with
    | '.' :: rest =>
      let (p, rest) := extent rest
      (some p, rest)
    | _ => (none, rest)
  match rest with
  | [] => none
  | c :: rest =>
    let spelling := String.ofList ('%' :: cs.take (cs.length - rest.length))
    some (⟨flags, width, precision, c, spelling⟩, rest)

/-- The parts of a format. The number bounds the characters. -/
def itemsWithin : Nat → List Char → List Item
  | 0, _ | _, [] => []
  | fuel + 1, c :: rest =>
    if c == '\\' then
      let (bytes, left) := escape rest
      .plain bytes :: itemsWithin fuel left
    else if c == '%' then
      match rest with
      | '%' :: left => .plain [37] :: itemsWithin fuel left
      | _ =>
        match directive? rest with
        | some (d, left) => .directive d :: itemsWithin fuel left
        | none => [.unfinished]
    else .plain (charBytes c) :: itemsWithin fuel rest

/-- A text filled up to a width. -/
def pad (left zeros : Bool) (width : Nat) (body : List UInt8) : List UInt8 :=
  let gap := width - body.length
  if left then body ++ List.replicate gap 32
  else if zeros then
    let sign := body.takeWhile fun b => b == 43 || b == 45
    sign ++ List.replicate gap 48 ++ body.drop sign.length
  else List.replicate gap 32 ++ body

/-- The digits of a number to a base. -/
def digitsOf (base : Nat) (upper : Bool) (n : Nat) : String :=
  let text := String.ofList (Nat.toDigits base n)
  if upper then String.ofList (text.toList.map Char.toUpper) else text

/-- A number as a directive says, with at least as many digits as its precision asks for. -/
def writeNumber (flags : List Char) (precision : Option Nat) (conversion : Char) (n : Int) :
    String :=
  let bits := (n % Int.pow 2 64).toNat
  let mark := if flags.contains '#' && bits != 0 then
      if conversion == 'o' then "0" else if conversion == 'x' then "0x"
      else if conversion == 'X' then "0X" else ""
    else ""
  let digits := match conversion with
    | 'o' => digitsOf 8 false bits
    | 'x' => digitsOf 16 false bits
    | 'X' => digitsOf 16 true bits
    | 'u' => toString bits
    | _ => toString n.natAbs
  let isSigned := conversion == 'd' || conversion == 'i'
  let sign := if isSigned && n < 0 then "-" else if isSigned && flags.contains '+' then "+"
    else if isSigned && flags.contains ' ' then " " else ""
  let gap := (precision.getD 0) - digits.length
  sign ++ mark ++ String.ofList (List.replicate gap '0') ++ digits

/-- The number an argument stands for, and a complaint when it is not one. A quote in front
stands for the number of the next character. -/
def numberOf (argument : String) : Int × Option String :=
  match argument.toList with
  | '"' :: rest | '\'' :: rest => ((rest.head?.map fun c => (c.toNat : Int)).getD 0, none)
  | cs =>
    let (n, rest) := integer argument
    let (exact, _) := unsigned (cs.dropWhile fun c => c == '-' || c == '+')
    if rest.isEmpty then
      let tooLarge := Nat.pow 2 63 < exact
      (n, if tooLarge then some (argument ++ ": Numerical result out of range") else none)
    else if rest.length = cs.length then (0, some (argument ++ ": expected numeric value"))
    else (n, some (argument ++ ": not completely converted"))

/-- What a format has printed: the bytes, the complaints, the arguments left, and whether it
stops there, and with which status. -/
structure Printed where
  bytes : List UInt8 := []
  notes : List String := []
  left : List String := []
  stop : Bool := false
  status : Nat := 0
  deriving Inhabited

/-- The number of an extent, which may be the next argument. -/
def resolve (arguments : List String) : Extent → Int × List String
  | .fixed n => (n, arguments)
  | .argument => ((numberOf (arguments.headD "")).1, arguments.drop 1)

/-- The next argument written as a directive says. -/
def write (d : Directive) (arguments : List String) : Printed :=
  let (width, arguments) := resolve arguments d.width
  let (precision, arguments) : Option Nat × List String := match d.precision with
    | none => (none, arguments)
    | some e =>
      let (p, arguments) := resolve arguments e
      (if p < 0 then none else some p.toNat, arguments)
  let argument := arguments.headD ""
  let left := arguments.drop 1
  let fill (zeros : Bool) (body : List UInt8) : List UInt8 :=
    pad (d.flags.contains '-' || width < 0) zeros width.natAbs body
  match d.conversion with
  | 's' =>
    let bytes := Text.Utf8.encode argument
    { bytes := fill false (match precision with | some p => bytes.take p | none => bytes), left }
  | 'b' =>
    let (bytes, stop) := unescape argument
    { bytes := fill false bytes, left, stop }
  | 'c' =>
    let bytes := if argument.isEmpty then [0] else (Text.Utf8.encode argument).take 1
    { bytes := fill false bytes, left }
  | c =>
    if "diuoxX".contains c then
      let (n, note) := numberOf argument
      let text := writeNumber d.flags precision c n
      { bytes := fill (d.flags.contains '0' && precision.isNone) (Text.Utf8.encode text)
        notes := note.toList
        left
        status := if note.isSome then 1 else 0 }
    else { notes := [d.spelling ++ ": invalid directive"], stop := true, status := 2 }

/-- One use of a format. -/
def once : List Item → List String → Printed
  | [], arguments => { left := arguments }
  | .unfinished :: _, _ =>
    { notes := ["missing format character"], stop := true, status := 2 }
  | .plain bytes :: more, arguments =>
    let p := once more arguments
    { p with bytes := bytes ++ p.bytes }
  | .directive d :: more, arguments =>
    let first := write d arguments
    if first.stop then first
    else
      let p := once more first.left
      { p with
        bytes := first.bytes ++ p.bytes
        notes := first.notes ++ p.notes
        status := max first.status p.status }

/-- Uses of a format while arguments are left. The number bounds the uses. -/
def again (items : List Item) : Nat → List String → Printed
  | 0, arguments => { left := arguments }
  | fuel + 1, arguments =>
    let first := once items arguments
    if first.stop || first.left.isEmpty || first.left.length == arguments.length then first
    else
      let p := again items fuel first.left
      { p with
        bytes := first.bytes ++ p.bytes
        notes := first.notes ++ p.notes
        status := max first.status p.status }

/-- The output of a format with arguments. -/
def print (format : String) (arguments : List String) : Printed :=
  again (itemsWithin (format.length + 1) format.toList) (arguments.length + 1) arguments

/-- Arguments with blanks between, escapes replaced, on a line that a leading "-n" leaves
open. -/
def echo (arguments : List String) : List UInt8 :=
  let (open_, words) := match arguments with
    | "-n" :: rest => (true, rest)
    | _ => (false, arguments)
  let (bytes, stop) := unescape (" ".intercalate words)
  if open_ || stop then bytes else bytes ++ [Stream.lineFeed]

end LayerPress.Host.Format
