import LayerPress.Json.Basic

/-!
# Reading JSON

The lexical parts of JSON over a list of characters, each answering what it read with the rest
of the text, and the reader of whole documents. Strings must not hold bare controls or lone
surrogates, numbers must not be too large for a double, the last of equal keys wins, and arrays
and objects nest at most one hundred and twenty-seven deep.
-/

namespace LayerPress.Json

/-- The four blanks of JSON. -/
def isSpace (c : Char) : Bool :=
  c == ' ' || c == '\n' || c == '\t' || c == '\r'

/-- The text after its leading blanks. -/
def skipSpace (cs : List Char) : List Char :=
  cs.dropWhile isSpace

/-- A decimal digit. -/
def isDigit (c : Char) : Bool :=
  '0' ≤ c && c ≤ '9'

/-- The value of a hexadecimal digit. -/
def hexValue? (c : Char) : Option Nat :=
  if '0' ≤ c ∧ c ≤ '9' then some (c.toNat - '0'.toNat)
  else if 'a' ≤ c ∧ c ≤ 'f' then some (c.toNat - 'a'.toNat + 10)
  else if 'A' ≤ c ∧ c ≤ 'F' then some (c.toNat - 'A'.toNat + 10)
  else none

/-- The four hexadecimal digits of an escape. -/
def readUnit : List Char → Option (Nat × List Char)
  | a :: b :: c :: d :: rest => do
    let a ← hexValue? a
    let b ← hexValue? b
    let c ← hexValue? c
    let d ← hexValue? d
    return (((a * 16 + b) * 16 + c) * 16 + d, rest)
  | _ => none

/-- The character of an escape of one letter. -/
def shortEscape? (c : Char) : Option Char :=
  match c with
  | '"' => some '"'
  | '\\' => some '\\'
  | '/' => some '/'
  | 'b' => some (Char.ofNat 8)
  | 'f' => some (Char.ofNat 12)
  | 'n' => some '\n'
  | 'r' => some '\r'
  | 't' => some '\t'
  | _ => none

/-- An escape after its backslash: one character, by one unit or by a pair of surrogates. -/
def readEscape : List Char → Option (Char × List Char)
  | 'u' :: rest => do
    let (high, rest) ← readUnit rest
    if high < 0xd800 ∨ 0xdfff < high then return (Char.ofNat high, rest)
    if 0xdc00 ≤ high then none
    match rest with
    | '\\' :: 'u' :: rest =>
      let (low, rest) ← readUnit rest
      if low < 0xdc00 ∨ 0xdfff < low then none
      return (Char.ofNat (0x10000 + (high - 0xd800) * 0x400 + (low - 0xdc00)), rest)
    | _ => none
  | c :: rest => (shortEscape? c).map (·, rest)
  | [] => none

/-- A string after its opening quote, characters read so far in reverse. -/
def readString : Nat → List Char → List Char → Option (String × List Char)
  | 0, _, _ => none
  | _ + 1, _, [] => none
  | fuel + 1, read, c :: rest =>
    if c == '"' then some (String.ofList read.reverse, rest)
    else if c == '\\' then
      match readEscape rest with
      | some (c, rest) => readString fuel (c :: read) rest
      | none => none
    else if c.toNat < 0x20 then none
    else readString fuel (c :: read) rest

/-- A string after its opening quote. -/
def string? (cs : List Char) : Option (String × List Char) :=
  readString (cs.length + 1) [] cs

/-- The value of a list of digits. -/
def digitsValue (cs : List Char) : Nat :=
  cs.foldl (fun n c => n * 10 + (c.toNat - '0'.toNat)) 0

/-- The pieces of a number: sign, whole digits, digits after the point, exponent. -/
structure NumberParts where
  negative : Bool
  whole : List Char
  places : Option (List Char)
  exponent : Option Int

/-- Digits of which there must be at least one. -/
def digits? (cs : List Char) : Option (List Char × List Char) :=
  match cs.takeWhile isDigit with
  | [] => none
  | ds => some (ds, cs.dropWhile isDigit)

/-- The whole part of a number: no zero stands before another digit. -/
def whole? (cs : List Char) : Option (List Char × List Char) := do
  let (ds, rest) ← digits? cs
  match ds with
  | '0' :: _ :: _ => none
  | _ => return (ds, rest)

/-- The digits after a point, if there is one. -/
def places? : List Char → Option (Option (List Char) × List Char)
  | '.' :: rest => do
    let (ds, rest) ← digits? rest
    return (some ds, rest)
  | cs => some (none, cs)

/-- The exponent, if there is one. -/
def exponent? : List Char → Option (Option Int × List Char)
  | c :: rest =>
    if c == 'e' || c == 'E' then
      let (negative, rest) := match rest with
        | '-' :: rest => (true, rest)
        | '+' :: rest => (false, rest)
        | rest => (false, rest)
      do
        let (ds, rest) ← digits? rest
        let size : Int := digitsValue ds
        return (some (if negative then -size else size), rest)
    else some (none, c :: rest)
  | [] => some (none, [])

/-- The pieces of a number and the rest of the text. -/
def number? (cs : List Char) : Option (NumberParts × List Char) := do
  let (negative, cs) := match cs with
    | '-' :: rest => (true, rest)
    | _ => (false, cs)
  let (whole, cs) ← whole? cs
  let (places, cs) ← places? cs
  let (exponent, cs) ← exponent? cs
  return (⟨negative, whole, places, exponent⟩, cs)

/-- The document of a number: a whole number that fits sixty-four bits keeps all its digits, any
other is the nearest double, if one is in range. -/
def NumberParts.value? (p : NumberParts) : Option Json :=
  let places := p.places.getD []
  let digits := digitsValue (p.whole ++ places)
  let double := Double.ofDecimal p.negative digits (p.exponent.getD 0 - places.length)
  if p.places.isNone ∧ p.exponent.isNone then
    if p.negative ∧ 0 < digits ∧ digits ≤ Nat.pow 2 63 then some (.integer (-(digits : Int)))
    else if !p.negative ∧ digits < UInt64.size then some (.integer digits)
    else if double.isFinite then some (.double double)
    else none
  else if double.isFinite then some (.double double)
  else none

/-- The text after a given word. -/
def word? : List Char → List Char → Option (List Char)
  | [], cs => some cs
  | w :: ws, c :: cs => if w == c then word? ws cs else none
  | _ :: _, [] => none

/-- Fields with the last value of each key, in the order of first occurrence. -/
def mergeFields (fields : List (String × Json)) : List (String × Json) :=
  fields.foldl (fun merged (name, value) =>
    if merged.any (·.1 == name) then
      merged.map fun field => if field.1 == name then (name, value) else field
    else merged ++ [(name, value)]) []

mutual

/-- A value at its first character, with the levels of nesting that may still be opened. -/
def readValue : Nat → Nat → List Char → Option (Json × List Char)
  | 0, _, _ => none
  | fuel + 1, depth, cs =>
    match skipSpace cs with
    | 'n' :: rest => (word? ['u', 'l', 'l'] rest).map (.null, ·)
    | 't' :: rest => (word? ['r', 'u', 'e'] rest).map (.bool true, ·)
    | 'f' :: rest => (word? ['a', 'l', 's', 'e'] rest).map (.bool false, ·)
    | '"' :: rest => (string? rest).map fun (s, rest) => (.string s, rest)
    | '[' :: rest =>
      match depth with
      | 0 => none
      | depth + 1 =>
        match skipSpace rest with
        | ']' :: rest => some (.array [], rest)
        | rest => (readItems fuel depth rest).map fun (items, rest) => (.array items, rest)
    | '\x7b' :: rest =>
      match depth with
      | 0 => none
      | depth + 1 =>
        match skipSpace rest with
        | '\x7d' :: rest => some (.object [], rest)
        | rest =>
          (readFields fuel depth rest).map fun (fields, rest) =>
            (.object (mergeFields fields), rest)
    | cs =>
      match number? cs with
      | some (parts, rest) => parts.value?.map (·, rest)
      | none => none

/-- The items of an array up to its bracket; at least one is due. -/
def readItems : Nat → Nat → List Char → Option (List Json × List Char)
  | 0, _, _ => none
  | fuel + 1, depth, cs =>
    match readValue fuel depth cs with
    | none => none
    | some (item, rest) =>
      match skipSpace rest with
      | ',' :: rest => (readItems fuel depth rest).map fun (items, rest) => (item :: items, rest)
      | ']' :: rest => some ([item], rest)
      | _ => none

/-- The fields of an object up to its brace; at least one is due. -/
def readFields : Nat → Nat → List Char → Option (List (String × Json) × List Char)
  | 0, _, _ => none
  | fuel + 1, depth, cs =>
    match skipSpace cs with
    | '"' :: rest =>
      match string? rest with
      | none => none
      | some (name, rest) =>
        match skipSpace rest with
        | ':' :: rest =>
          match readValue fuel depth rest with
          | none => none
          | some (value, rest) =>
            match skipSpace rest with
            | ',' :: rest =>
              (readFields fuel depth rest).map fun (fields, rest) =>
                ((name, value) :: fields, rest)
            | '\x7d' :: rest => some ([(name, value)], rest)
            | _ => none
        | _ => none
    | _ => none

end

/-- The deepest nesting of a document. -/
def maxDepth : Nat := 127

/-- The document of a text that holds nothing else and nests within the depth. -/
def parseWithin? (depth : Nat) (text : String) : Option Json :=
  match readValue (2 * text.length + 2) depth text.toList with
  | some (document, rest) => if (skipSpace rest).isEmpty then some document else none
  | none => none

/-- The document of a text that holds nothing else. -/
def parse? (text : String) : Option Json :=
  parseWithin? maxDepth text

end LayerPress.Json
