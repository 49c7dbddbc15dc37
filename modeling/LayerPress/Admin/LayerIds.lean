import LayerPress.Json.Reader
import LayerPress.Uuid.Basic

/-!
# Lists of layer ids

The body of a bulk request: an object whose key layer_ids, given once, holds a list of ids, or an
array whose only element is that list. The text is read from the left, and the first fault
decides whether it is malformed or has the wrong shape. Values of other keys are passed over
whatever they are.
-/

namespace LayerPress.Admin.LayerIds

/-- Why a body is refused: it is no JSON, or it is JSON of another shape. -/
inductive BodyFault where
  | malformed
  | misshapen
  deriving DecidableEq, Repr

/-- A lexical part that must be there. -/
def wellFormed {α : Type} : Option α → Except BodyFault α
  | some a => .ok a
  | none => .error .malformed

/-- The fault of a value of an unexpected kind: the value must at least begin well. -/
def mismatch (cs : List Char) : BodyFault :=
  let misshapenIf (whole : Bool) : BodyFault := if whole then .misshapen else .malformed
  match cs with
  | 'n' :: rest => misshapenIf (Json.word? ['u', 'l', 'l'] rest).isSome
  | 't' :: rest => misshapenIf (Json.word? ['r', 'u', 'e'] rest).isSome
  | 'f' :: rest => misshapenIf (Json.word? ['a', 'l', 's', 'e'] rest).isSome
  | '"' :: rest => misshapenIf (Json.string? rest).isSome
  | '[' :: _ => .misshapen
  | '\x7b' :: _ => .misshapen
  | cs => misshapenIf ((Json.number? cs).bind (·.1.value?)).isSome

/-- A string after its opening quote is passed over. -/
def skipString : List Char → Option (List Char)
  | [] => none
  | '"' :: rest => some rest
  | '\\' :: 'u' :: a :: b :: c :: d :: rest =>
    if [a, b, c, d].all (Json.hexValue? · |>.isSome) then skipString rest else none
  | '\\' :: c :: rest => if (Json.shortEscape? c).isSome then skipString rest else none
  | c :: rest => if c.toNat < 0x20 || c == '\\' then none else skipString rest

mutual

/-- Any value is passed over. -/
def skipValue : Nat → List Char → Option (List Char)
  | 0, _ => none
  | fuel + 1, cs =>
    match Json.skipSpace cs with
    | 'n' :: rest => Json.word? ['u', 'l', 'l'] rest
    | 't' :: rest => Json.word? ['r', 'u', 'e'] rest
    | 'f' :: rest => Json.word? ['a', 'l', 's', 'e'] rest
    | '"' :: rest => skipString rest
    | '[' :: rest =>
      match Json.skipSpace rest with
      | ']' :: rest => some rest
      | rest => skipItems fuel rest
    | '\x7b' :: rest =>
      match Json.skipSpace rest with
      | '\x7d' :: rest => some rest
      | rest => skipFields fuel rest
    | cs => (Json.number? cs).map (·.2)

/-- The items of an array up to its bracket are passed over. -/
def skipItems : Nat → List Char → Option (List Char)
  | 0, _ => none
  | fuel + 1, cs =>
    match skipValue fuel cs with
    | none => none
    | some rest =>
      match Json.skipSpace rest with
      | ',' :: rest => skipItems fuel rest
      | ']' :: rest => some rest
      | _ => none

/-- The fields of an object up to its brace are passed over. -/
def skipFields : Nat → List Char → Option (List Char)
  | 0, _ => none
  | fuel + 1, cs =>
    match Json.skipSpace cs with
    | '"' :: rest =>
      match skipString rest with
      | none => none
      | some rest =>
        match Json.skipSpace rest with
        | ':' :: rest =>
          match skipValue fuel rest with
          | none => none
          | some rest =>
            match Json.skipSpace rest with
            | ',' :: rest => skipFields fuel rest
            | '\x7d' :: rest => some rest
            | _ => none
        | _ => none
    | _ => none

end

/-- One id. -/
def readId (cs : List Char) : Except BodyFault (Uuid × List Char) :=
  match Json.skipSpace cs with
  | '"' :: rest => do
    let (text, rest) ← wellFormed (Json.string? rest)
    match Uuid.parse? text with
    | some id => return (id, rest)
    | none => throw .misshapen
  | cs => .error (mismatch cs)

/-- Ids up to the bracket; at least one is due. -/
def readIds : Nat → List Char → Except BodyFault (List Uuid × List Char)
  | 0, _ => .error .malformed
  | fuel + 1, cs => do
    let (id, rest) ← readId cs
    match Json.skipSpace rest with
    | ']' :: rest => return ([id], rest)
    | ',' :: rest =>
      match Json.skipSpace rest with
      | ']' :: _ => throw .malformed
      | rest => do
        let (ids, rest) ← readIds fuel rest
        return (id :: ids, rest)
    | _ => throw .malformed

/-- A list of ids. -/
def readList (cs : List Char) : Except BodyFault (List Uuid × List Char) :=
  match Json.skipSpace cs with
  | '[' :: rest =>
    match Json.skipSpace rest with
    | ']' :: rest => .ok ([], rest)
    | rest => readIds (rest.length + 1) rest
  | cs => .error (mismatch cs)

/-- The value of a key after its colon. -/
def afterColon (cs : List Char) : Except BodyFault (List Char) :=
  match Json.skipSpace cs with
  | ':' :: rest => .ok rest
  | _ => .error .malformed

/-- The fields of an object from a key on, with the list if it has been read. -/
def readFields : Nat → Option (List Uuid) → List Char → Except BodyFault (List Uuid × List Char)
  | 0, _, _ => .error .malformed
  | fuel + 1, found, cs =>
    match cs with
    | '"' :: rest => do
      let (key, rest) ← wellFormed (Json.string? rest)
      let (found, rest) ←
        if key == "layer_ids" then
          if found.isSome then throw .misshapen
          else do
            let (ids, rest) ← readList (← afterColon rest)
            pure (some ids, rest)
        else do
          let rest ← afterColon rest
          pure (found, ← wellFormed (skipValue (2 * rest.length + 2) rest))
      match Json.skipSpace rest with
      | '\x7d' :: rest =>
        match found with
        | some ids => return (ids, rest)
        | none => throw .misshapen
      | ',' :: rest => readFields fuel found (Json.skipSpace rest)
      | _ => throw .malformed
    | _ => .error .malformed

/-- A request in either shape. -/
def readRequest (cs : List Char) : Except BodyFault (List Uuid × List Char) :=
  match Json.skipSpace cs with
  | '[' :: rest =>
    match Json.skipSpace rest with
    | ']' :: _ => .error .misshapen
    | rest => do
      let (ids, rest) ← readList rest
      match Json.skipSpace rest with
      | ']' :: rest => return (ids, rest)
      | _ => throw .malformed
  | '\x7b' :: rest =>
    match Json.skipSpace rest with
    | '\x7d' :: _ => .error .misshapen
    | rest => readFields (rest.length + 1) none rest
  | cs => .error (mismatch cs)

/-- The ids a body lists. -/
def read (body : String) : Except BodyFault (List Uuid) := do
  let (ids, rest) ← readRequest body.toList
  if (Json.skipSpace rest).isEmpty then return ids else throw .malformed

end LayerPress.Admin.LayerIds
