import LayerPress.Host.Condition
import LayerPress.Host.Filter

/-!
# The tools by name

The small programs of a host, each as a function of what it sees.
-/

namespace LayerPress.Host.Tools

/-- Arguments with blanks between on a line, after flags. -/
def echo (v : View) : Effect :=
  let flags := v.arguments.takeWhile fun a =>
    a.startsWith "-" && a.length > 1 && (a.toList.drop 1).all fun c => "neE".contains c
  let words := " ".intercalate (v.arguments.drop flags.length)
  let letters := flags.flatMap String.toList
  let (bytes, stop) := if letters.contains 'e' then Format.unescape words
    else (Text.Utf8.encode words, false)
  .writes (if letters.contains 'n' || stop then bytes else bytes ++ [Stream.lineFeed])

/-- Prints by a format. -/
def printf (v : View) : Effect :=
  match (if v.arguments.head? = some "--" then v.arguments.drop 1 else v.arguments) with
  | [] => .complain "usage: printf format [arg ...]" 2
  | format :: arguments =>
    if v.arguments.head? != some "--" && format.startsWith "-" && format.length > 1 then
      .complain ("Illegal option -" ++ String.ofList ((format.toList.drop 1).take 1)) 2
    else
      let p := Format.print format arguments
      { out := .ofBytes p.bytes, notes := p.notes, status := p.status }

/-- Whole numbers from a first to a last. -/
def upTo (first step last : Int) : List Int :=
  let count := if 0 < step then (last - first).fdiv step + 1 else (first - last).fdiv (-step) + 1
  (List.range count.toNat).map fun (i : Nat) => first + step * (i : Int)

/-- The text is a whole number. -/
def isWhole (text : String) : Bool := (Condition.number? text).isOk

/-- Writes a sequence of numbers. -/
def seq (v : View) : Effect :=
  let (separator, operands) : String × List String := match v.arguments with
    | "-s" :: s :: rest => (s, rest)
    | a :: rest =>
      if a.startsWith "-s" then (String.ofList (a.toList.drop 2), rest) else ("\n", a :: rest)
    | [] => ("\n", [])
  let shown (numbers : List Int) : Effect :=
    if numbers.isEmpty then {}
    else .writes (Text.Utf8.encode (separator.intercalate (numbers.map toString) ++ "\n"))
  match operands.find? (!isWhole ·), operands.map Format.integerOf, operands with
  | some bad, _, _ => .misuse ("invalid floating point argument: " ++ inMarks bad) 1
  | none, [last], _ => shown (upTo 1 1 last)
  | none, [first, last], _ => shown (upTo first 1 last)
  | none, [first, step, last], _ =>
    if step = 0 then
      .misuse ("invalid Zero increment value: " ++ inMarks ((operands[1]?).getD "")) 1
    else shown (upTo first step last)
  | none, _, [] => .misuse "missing operand" 1
  | none, _, _ => .misuse ("extra operand " ++ inMarks ((operands[3]?).getD "")) 1

/-- The milliseconds a text of seconds asks for; it may have a fraction and a unit. -/
def milliseconds? (text : String) : Option Nat :=
  let (whole, rest) := Format.number text.toList
  let (fraction, unit) := match rest with
    | '.' :: rest =>
      let digits := rest.takeWhile (·.isDigit)
      ((Format.number ((digits ++ ['0', '0', '0']).take 3)).1, rest.drop digits.length)
    | _ => (0, rest)
  let factor : Option Nat := match unit with
    | [] | ['s'] => some 1
    | ['m'] => some 60
    | ['h'] => some 3600
    | ['d'] => some 86400
    | _ => none
  if text.isEmpty || rest.length == text.length && !text.startsWith "." then none
  else factor.map (· * (whole * 1000 + fraction))

/-- Lets time pass. -/
def sleep (v : View) : Effect :=
  if v.arguments.isEmpty then .misuse "missing operand" 1
  else if v.arguments = ["infinity"] || v.arguments = ["inf"] then { stuck := true }
  else match v.arguments.find? fun a => (milliseconds? a).isNone with
    | none => { time := (v.arguments.filterMap milliseconds?).foldl (· + ·) 0 }
    | some bad =>
      match bad.toList with
      | '-' :: c :: _ => .misuse ("invalid option -- '" ++ String.ofList [c] ++ "'") 1
      | _ => .misuse ("invalid time interval " ++ inMarks bad) 1

/-- Writes a line for ever. -/
def yes (v : View) : Effect :=
  let line := if v.arguments.isEmpty then "y" else " ".intercalate v.arguments
  { out := ⟨[], Text.Utf8.encode (line ++ "\n")⟩ }

/-- A path without slashes at its end. -/
def withoutSlashes (cs : List Char) : List Char :=
  (cs.reverse.dropWhile (· == '/')).reverse

/-- Writes the last part of a path, without an ending that is given. -/
def basename (v : View) : Effect :=
  match v.arguments with
  | [] => .misuse "missing operand" 1
  | path :: endings =>
    let trimmed := withoutSlashes path.toList
    let last := (trimmed.reverse.takeWhile (· != '/')).reverse
    let ending := (endings.headD "").toList
    let shown := if ending.isSuffixOf last && last != ending then
        last.take (last.length - ending.length)
      else last
    let text := if trimmed.isEmpty && !path.isEmpty then "/" else String.ofList shown
    .writes (Text.Utf8.encode (text ++ "\n"))

/-- Writes a path without its last part. -/
def dirname (v : View) : Effect :=
  match v.arguments with
  | [] => .misuse "missing operand" 1
  | path :: _ =>
    let trimmed := withoutSlashes path.toList
    let folder := (trimmed.reverse.dropWhile (· != '/')).reverse
    let shown := withoutSlashes folder
    let text := if trimmed.isEmpty && !path.isEmpty then "/"
      else if folder.isEmpty then "." else if shown.isEmpty then "/" else String.ofList shown
    .writes (Text.Utf8.encode (text ++ "\n"))

/-- Every tool by its name. -/
def all : List (String × (View → Effect)) :=
  [("cat", Filter.cat), ("echo", echo), ("printf", printf), ("seq", seq), ("head", Filter.head),
    ("tail", Filter.tail), ("tr", Filter.tr), ("wc", Filter.wc), ("sort", Filter.sort),
    ("uniq", Filter.uniq), ("rev", Filter.rev), ("cut", Filter.cut), ("sleep", sleep),
    ("yes", yes), ("dd", Filter.dd), ("basename", basename), ("dirname", dirname),
    ("test", Condition.test), ("[", Condition.bracket), ("true", fun _ => {}),
    ("false", fun _ => { status := 1 }), ("uname", fun _ => .writes (Text.Utf8.encode "Linux\n"))]

end LayerPress.Host.Tools
