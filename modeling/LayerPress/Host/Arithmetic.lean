import LayerPress.Host.Format

/-!
# Arithmetic

Whole-number expressions of 64 bits with the usual operators, where a name stands for the number
it holds and may be given another. Comparisons give one or zero. Division cuts towards zero and
has no value when the divisor is zero.
-/

namespace LayerPress.Host.Arithmetic

/-- Why an expression has no value. -/
inductive Fault where
  | expectingPrimary
  | expectingEnd
  | expectingColon
  | divisionByZero
  | illegalNumber (text : String)
  deriving DecidableEq, Repr

/-- The wording of a fault of an expression. -/
def Fault.message (expression : String) : Fault → String
  | expectingPrimary => "arithmetic expression: expecting primary: \"" ++ expression ++ "\""
  | expectingEnd => "arithmetic expression: expecting EOF: \"" ++ expression ++ "\""
  | expectingColon => "arithmetic expression: expecting ':': \"" ++ expression ++ "\""
  | divisionByZero => "arithmetic expression: division by zero: \"" ++ expression ++ "\""
  | illegalNumber text => "Illegal number: " ++ text

/-- The value of a truth. -/
def truth (b : Bool) : Int := if b then 1 else 0

/-- A number within 64 bits. -/
def wrap (n : Int) : Int := n.bmod UInt64.size

/-- A number's bits. -/
def bits (n : Int) : BitVec 64 := BitVec.ofInt 64 n

/-- A function of two numbers, which may have no value. -/
abbrev Operator := Int → Int → Except Fault Int

/-- The operators that may stand before an equals sign. -/
def assigning : List (String × Nat × Operator) := [
  ("|", 3, fun a b => .ok (bits a ||| bits b).toInt),
  ("^", 4, fun a b => .ok (bits a ^^^ bits b).toInt),
  ("&", 5, fun a b => .ok (bits a &&& bits b).toInt),
  ("<<", 8, fun a b => .ok (bits a <<< (b.toNat % 64)).toInt),
  (">>", 8, fun a b => .ok ((bits a).sshiftRight (b.toNat % 64)).toInt),
  ("+", 9, fun a b => .ok (wrap (a + b))),
  ("-", 9, fun a b => .ok (wrap (a - b))),
  ("*", 10, fun a b => .ok (wrap (a * b))),
  ("/", 10, fun a b => if b = 0 then .error .divisionByZero else .ok (wrap (a.tdiv b))),
  ("%", 10, fun a b => if b = 0 then .error .divisionByZero else .ok (a.tmod b))]

/-- The operators between two operands, longer ones first, with how closely they bind. -/
def operators : List (String × Nat × Operator) := [
  ("||", 1, fun a b => .ok (truth (a != 0 || b != 0))),
  ("&&", 2, fun a b => .ok (truth (a != 0 && b != 0))),
  ("==", 6, fun a b => .ok (truth (a == b))),
  ("!=", 6, fun a b => .ok (truth (a != b))),
  ("<=", 7, fun a b => .ok (truth (a ≤ b))),
  (">=", 7, fun a b => .ok (truth (b ≤ a)))] ++
  assigning.filter (·.1.length == 2) ++ [
  ("<", 7, fun a b => .ok (truth (a < b))),
  (">", 7, fun a b => .ok (truth (b < a)))] ++
  assigning.filter (·.1.length == 1)

/-- The text after its blanks. -/
def skipBlanks (cs : List Char) : List Char :=
  cs.dropWhile fun c => c == ' ' || c == '\t' || c == '\n'

/-- The operator at the front; one before an equals sign gives a name a number instead. -/
def operator? (cs : List Char) : Option (Nat × Operator × List Char) :=
  operators.findSome? fun (name, level, f) =>
    let rest := cs.drop name.length
    if name.toList.isPrefixOf cs && !(rest.head? == some '=' && assigning.any (·.1 == name)) then
      some (level, f, rest)
    else none

/-- A name at the front. -/
def nameAt : List Char → List Char
  | [] => []
  | c :: rest =>
    if c.isAlpha || c == '_' then c :: rest.takeWhile fun c => c.isAlphanum || c == '_' else []

/-- How a name at the front is given a number: the name, what its old number goes through, and
the rest. -/
def assignment? (cs : List Char) : Option (String × Operator × List Char) :=
  let name := nameAt cs
  let rest := skipBlanks (cs.drop name.length)
  if name.isEmpty then none
  else match rest with
    | '=' :: '=' :: _ => none
    | '=' :: rest => some (String.ofList name, fun _ b => .ok b, rest)
    | _ => assigning.findSome? fun (op, _, f) =>
      if (op.toList ++ ['=']).isPrefixOf rest then
        some (String.ofList name, f, rest.drop (op.length + 1))
      else none

/-- Numbers that names were given, newest first. -/
abbrev Given := List (String × Int)

/-- The number a name holds: none is zero, and a text has to spell one. -/
def numberOf (value : String → String) (given : Given) (name : String) : Except Fault Int :=
  match given.lookup name with
  | some n => .ok n
  | none =>
    let text := value name
    match Format.integer text with
    | (n, []) => .ok n
    | _ => .error (.illegalNumber text)

/-- An operator applied, or only read past where its value is not needed. -/
def apply (needed : Bool) (f : Operator) (a b : Int) : Except Fault Int :=
  if needed then f a b else .ok 0

mutual

/-- An expression that may give names numbers or choose; where its value is not needed it has no
effect. The number bounds the depth. -/
def whole (value : String → String) :
    Nat → Bool → Given → List Char → Except Fault (Int × Given × List Char)
  | 0, _, _, _ => .error .expectingPrimary
  | fuel + 1, needed, given, cs =>
    match assignment? (skipBlanks cs) with
    | some (name, f, rest) => do
      let (b, given, rest) ← whole value fuel needed given rest
      let n ← apply needed f (← numberOf value given name) b
      return (n, if needed then (name, n) :: given else given, rest)
    | none => do
      let (a, given, rest) ← binary value fuel 1 needed given cs
      match rest with
      | '?' :: rest =>
        let (yes, given, rest) ← whole value fuel (needed && a != 0) given rest
        match skipBlanks rest with
        | ':' :: rest =>
          let (no, given, rest) ← whole value fuel (needed && a == 0) given rest
          return (if a = 0 then no else yes, given, rest)
        | _ => throw .expectingColon
      | _ => return (a, given, rest)

/-- An expression whose operators bind at least so closely. -/
def binary (value : String → String) :
    Nat → Nat → Bool → Given → List Char → Except Fault (Int × Given × List Char)
  | 0, _, _, _, _ => .error .expectingPrimary
  | fuel + 1, level, needed, given, cs => do
    let (a, given, rest) ← operand value fuel needed given (skipBlanks cs)
    further value fuel level a needed given (skipBlanks rest)

/-- The operators after an operand. -/
def further (value : String → String) :
    Nat → Nat → Int → Bool → Given → List Char → Except Fault (Int × Given × List Char)
  | 0, _, _, _, _, _ => .error .expectingPrimary
  | fuel + 1, level, a, needed, given, cs =>
    match operator? cs with
    | none => .ok (a, given, cs)
    | some (own, f, rest) =>
      if own < level then .ok (a, given, cs)
      else do
        let settled := (own = 1 && a != 0) || (own = 2 && a == 0)
        let (b, given, rest) ← binary value fuel (own + 1) (needed && !settled) given rest
        further value fuel level (← apply needed f a b) needed given (skipBlanks rest)

/-- One operand. -/
def operand (value : String → String) :
    Nat → Bool → Given → List Char → Except Fault (Int × Given × List Char)
  | 0, _, _, _ | _, _, _, [] => .error .expectingPrimary
  | fuel + 1, needed, given, c :: rest =>
    if c == '(' then do
      let (a, given, rest) ← whole value fuel needed given rest
      match skipBlanks rest with
      | ')' :: rest => .ok (a, given, rest)
      | _ => .error .expectingPrimary
    else if c == '-' then do
      let (a, given, rest) ← operand value fuel needed given (skipBlanks rest)
      return (wrap (-a), given, rest)
    else if c == '+' then operand value fuel needed given (skipBlanks rest)
    else if c == '!' then do
      let (a, given, rest) ← operand value fuel needed given (skipBlanks rest)
      return (truth (a == 0), given, rest)
    else if c == '~' then do
      let (a, given, rest) ← operand value fuel needed given (skipBlanks rest)
      return ((~~~ bits a).toInt, given, rest)
    else if c.isDigit then
      let (n, rest) := Format.integer (String.ofList (c :: rest))
      .ok (n, given, rest)
    else
      let name := nameAt (c :: rest)
      if name.isEmpty then .error .expectingPrimary
      else do
        let n ← numberOf value given (String.ofList name)
        return (n, given, (c :: rest).drop name.length)

end

/-- The value of an expression over the values of names, and the numbers that names are given. -/
def evaluate (value : String → String) (text : String) : Except Fault (Int × Given) := do
  let (a, given, rest) ← whole value (4 * text.length + 8) true [] text.toList
  if (skipBlanks rest).isEmpty then return (a, given) else throw .expectingEnd

end LayerPress.Host.Arithmetic
