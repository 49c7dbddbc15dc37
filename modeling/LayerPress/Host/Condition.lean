import LayerPress.Host.Format
import LayerPress.Host.View

/-!
# Conditions

Questions about texts, numbers and files, joined by "not", "and" and "or". What is left over
after a whole condition is a fault, named after the word before it.
-/

namespace LayerPress.Host.Condition

/-- An answer, the last word used and the words left. -/
abbrev Answer := Except String (Bool × String × List String)

/-- The number a word spells as a whole. -/
def number? (s : String) : Except String Int :=
  let cs := s.toList.dropWhile fun c => c == ' '
  let (negative, digits) := match cs with
    | '-' :: rest => (true, rest)
    | '+' :: rest => (false, rest)
    | _ => (false, cs)
  if digits.isEmpty || !digits.all (·.isDigit) then .error ("Illegal number: " ++ s)
  else
    let n : Int := ((Format.number digits).1 : Nat)
    .ok (if negative then -n else n)

/-- The answers of comparisons of two texts. -/
def textual : List (String × (String → String → Bool)) :=
  [("=", (· == ·)), ("!=", (· != ·)), ("<", fun a b => a < b), (">", fun a b => b < a)]

/-- The answers of comparisons of two numbers. -/
def numeric : List (String × (Int → Int → Bool)) :=
  [("-eq", (· == ·)), ("-ne", (· != ·)), ("-lt", fun a b => a < b), ("-le", fun a b => a ≤ b),
    ("-gt", fun a b => b < a), ("-ge", fun a b => b ≤ a)]

/-- The comparisons of two files' ages, none of which holds here. -/
def filial : List String := ["-nt", "-ot", "-ef"]

/-- The answer of a comparison. -/
def compare? (a op b : String) : Option (Except String Bool) :=
  match textual.lookup op, numeric.lookup op with
  | some f, _ => some (.ok (f a b))
  | none, some f => some (do return f (← number? a) (← number? b))
  | none, none => if filial.contains op then some (.ok false) else none

/-- The answer of a question about one word. -/
def ask? (v : View) (op a : String) : Option (Except String Bool) :=
  let exists_ := (v.openFile a).isOk || v.isFolder a
  match op with
  | "-n" => some (.ok (!a.isEmpty))
  | "-z" => some (.ok a.isEmpty)
  | "-e" | "-r" | "-w" => some (.ok exists_)
  | "-f" => some (.ok ((v.openFile a).isOk && !v.isDevice a))
  | "-d" => some (.ok (v.isFolder a))
  | "-c" => some (.ok (v.isDevice a))
  | "-x" => some (.ok (v.isFolder a || a.startsWith "/bin/" || a.startsWith "/usr/bin/"))
  | "-s" =>
    some (.ok (match v.openFile a with
      | .ok stream => !stream.front.isEmpty
      | .error _ => v.isFolder a))
  | "-t" => some ((number? a).map fun _ => false)
  | "-b" | "-p" | "-h" | "-L" | "-S" | "-u" | "-g" | "-k" | "-O" | "-G" => some (.ok false)
  | _ => none

mutual

/-- Conditions joined by "or". The number bounds the words. -/
def disjunction (v : View) : Nat → List String → Answer
  | 0, _ => .error "too many arguments"
  | fuel + 1, words => do
    let (a, last, rest) ← conjunction v fuel words
    match rest with
    | "-o" :: rest =>
      let (b, last, rest) ← disjunction v fuel rest
      return (a || b, last, rest)
    | _ => return (a, last, rest)

/-- Conditions joined by "and". -/
def conjunction (v : View) : Nat → List String → Answer
  | 0, _ => .error "too many arguments"
  | fuel + 1, words => do
    let (a, last, rest) ← single v fuel words
    match rest with
    | "-a" :: rest =>
      let (b, last, rest) ← conjunction v fuel rest
      return (a && b, last, rest)
    | _ => return (a, last, rest)

/-- A condition that is not joined. -/
def single (v : View) : Nat → List String → Answer
  | 0, _ => .error "too many arguments"
  | _, [] => .error "argument expected"
  | fuel + 1, a :: rest => do
    match rest with
    | op :: b :: left =>
      match compare? a op b with
      | some answer => return (← answer, b, left)
      | none => alone v fuel a rest
    | _ => alone v fuel a rest

/-- A condition that starts with a word and is no comparison. -/
def alone (v : View) : Nat → String → List String → Answer
  | 0, _, _ => .error "too many arguments"
  | fuel + 1, a, rest => do
    match a, rest with
    | "!", _ :: _ =>
      let (b, last, left) ← single v fuel rest
      return (!b, last, left)
    | "(", _ :: _ =>
      let (b, _, left) ← disjunction v fuel rest
      match left with
      | ")" :: left => return (b, ")", left)
      | _ => throw "closing paren expected"
    | _, b :: left =>
      match ask? v a b with
      | some answer => return (← answer, b, left)
      | none => return (!a.isEmpty, a, rest)
    | _, [] => return (!a.isEmpty, a, [])

end

/-- Decides a condition; without words it does not hold. -/
def test (v : View) : Effect :=
  if v.arguments.isEmpty then { status := 1 }
  else match disjunction v (4 * v.arguments.length + 4) v.arguments with
    | .ok (b, _, []) => { status := if b then 0 else 1 }
    | .ok (_, last, _) => .complain (last ++ ": unexpected operator") 2
    | .error fault => .complain fault 2

/-- Decides a condition in brackets. -/
def bracket (v : View) : Effect :=
  if v.arguments.getLast? = some "]" then test { v with arguments := v.arguments.dropLast }
  else .complain "missing ]" 2

end LayerPress.Host.Condition
