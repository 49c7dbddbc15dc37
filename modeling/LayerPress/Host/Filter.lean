import LayerPress.Host.Format
import LayerPress.Host.View
import LayerPress.Text.Split

/-!
# Filters

Tools that make their output from their input: copies of parts of it, replaced bytes, lines in
order, and counts.
-/

namespace LayerPress.Host.Filter

/-- Copies its input or files. -/
def cat (v : View) : Effect :=
  let (stream, e) := v.gather View.unreadable (v.arguments.filter (· != "-u"))
  { e with out := stream }

/-- Whether bytes or lines are counted, how many, and the files. -/
def amount : List String → Bool × String × List String
  | "-c" :: n :: files => (true, n, files)
  | "-n" :: n :: files => (false, n, files)
  | a :: files =>
    match a.toList with
    | '-' :: 'c' :: n => (true, String.ofList n, files)
    | '-' :: 'n' :: n => (false, String.ofList n, files)
    | '-' :: c :: n => (false, String.ofList (c :: n), files)
    | _ => (false, "10", a :: files)
  | [] => (false, "10", [])

/-- A count with a unit, if the text spells one: thousands are decimal before a "B" and else
binary. -/
def scaled? (text : String) : Option Nat :=
  let cs := text.toList.dropWhile fun c => c == '+' || c == '-'
  let (n, unit) := Format.number cs
  let factor := match unit with
    | [] => some 1
    | ['k', 'B'] => some 1000
    | ['M', 'B'] => some 1000000
    | ['b'] => some 512
    | ['k'] | ['K'] => some 1024
    | ['M'] => some 1048576
    | _ => none
  if unit.length = cs.length then none else factor.map (n * ·)

/-- A count with a unit, or zero. -/
def scaled (text : String) : Nat := (scaled? text).getD 0

/-- How a part of the input is complained about. -/
def unopened (name : String) : Fault → String
  | .isADirectory => "error reading '" ++ name ++ "': " ++ Fault.isADirectory.wording
  | f => "cannot open '" ++ name ++ "' for reading: " ++ f.wording

/-- Copies a part of the input that bytes or lines are counted for. -/
def part (v : View) (copy : Bool → String → Nat → Stream → Effect) : Effect :=
  let (bytes, n, files) := amount v.arguments
  match scaled? n with
  | none =>
    .complain ("invalid number of " ++ (if bytes then "bytes" else "lines") ++ ": " ++ inMarks n) 1
  | some count =>
    let (stream, e) := v.gather unopened files
    let done := copy bytes n count stream
    { e with out := done.out, stuck := done.stuck }

/-- Copies the beginning of its input; a number with a minus sign leaves out an end. -/
def head (v : View) : Effect :=
  part v fun bytes n count stream =>
    if n.startsWith "-" then
      let items := if bytes then stream.front.map ([·]) else Stream.lines stream.front
      { out := .ofBytes (items.take (items.length - count)).flatten, stuck := stream.isEndless }
    else .writes (if bytes then stream.take count else stream.takeLines count)

/-- Copies the end of its input; a number with a plus sign counts from the front. -/
def tail (v : View) : Effect :=
  let follows := v.arguments.any fun a => a == "-f" || a == "-F"
  let v := { v with arguments := v.arguments.filter fun a => a != "-f" && a != "-F" }
  part v fun bytes n count stream =>
    let items := if bytes then stream.front.map ([·]) else Stream.lines stream.front
    let kept := if n.startsWith "+" then items.drop (count - 1)
      else items.drop (items.length - count)
    { out := .ofBytes kept.flatten, stuck := stream.isEndless || follows }

/-- The bytes between two, both included. -/
def between (a b : Nat) : List UInt8 :=
  (List.range (b + 1 - a)).map fun i => UInt8.ofNat (a + i)

/-- The named sets. -/
def classes : List (String × List UInt8) :=
  [("lower", between 97 122), ("upper", between 65 90), ("digit", between 48 57),
    ("alpha", between 65 90 ++ between 97 122),
    ("alnum", between 48 57 ++ between 65 90 ++ between 97 122),
    ("space", [9, 10, 11, 12, 13, 32]), ("blank", [9, 32])]

/-- The bytes of a set of characters: escapes, named sets, ranges and single characters. The
number bounds the characters. -/
def setWithin : Nat → List Char → List UInt8
  | 0, _ | _, [] => []
  | fuel + 1, '\\' :: rest =>
    let (bytes, left) := Format.escape rest
    bytes ++ setWithin fuel left
  | fuel + 1, '[' :: ':' :: rest =>
    let name := rest.takeWhile (· != ':')
    (classes.lookup (String.ofList name)).getD [] ++ setWithin fuel (rest.drop (name.length + 2))
  | fuel + 1, a :: '-' :: b :: rest =>
    between a.toNat b.toNat ++ setWithin fuel rest
  | fuel + 1, c :: rest => Format.charBytes c ++ setWithin fuel rest

/-- The bytes of a set of characters. -/
def setOf (s : String) : List UInt8 :=
  setWithin (s.length + 1) s.toList

/-- Every byte that is not in a set. -/
def complement (set : List UInt8) : List UInt8 :=
  (between 0 255).filter fun b => !set.contains b

/-- The pairs of bytes to replace; the last byte of the second set stands for those it lacks. -/
def replacements (a b : List UInt8) : List (UInt8 × UInt8) :=
  a.zip (b ++ List.replicate (a.length - b.length) (b.getLastD 0))

/-- A stream with bytes replaced. -/
def replace (pairs : List (UInt8 × UInt8)) (s : Stream) : Stream :=
  let table := (List.range 256).toArray.map fun i =>
    ((pairs.filter (·.1 == UInt8.ofNat i)).getLast?.map (·.2)).getD (UInt8.ofNat i)
  s.expand fun x => [table.getD x.toNat x]

/-- Bytes of which those of a set stand only once where they repeat. -/
def squeeze (set : List UInt8) (bytes : List UInt8) : List UInt8 :=
  bytes.foldr (fun b acc => if set.contains b && acc.head? == some b then acc else b :: acc) []

/-- Replaces bytes of one set by those of another, leaves them out, or squeezes them. -/
def tr (v : View) : Effect :=
  let isFlag (a : String) : Bool := a.startsWith "-" && a.length > 1
  let flags := (v.arguments.takeWhile isFlag).flatMap fun a => a.toList.drop 1
  let chosen (s : String) : List UInt8 :=
    if flags.contains 'c' || flags.contains 'C' then complement (setOf s) else setOf s
  match v.arguments.dropWhile isFlag with
  | [] => .misuse "missing operand" 1
  | [set] =>
    if flags.contains 'd' then
      let gone := chosen set
      { out := v.input.expand fun b => if gone.contains b then [] else [b] }
    else if flags.contains 's' then
      { out := .ofBytes (squeeze (chosen set) v.input.front), stuck := v.input.isEndless }
    else
      { Effect.complain ("missing operand after " ++ inMarks set ++
          "\nTwo strings must be given when translating.") 1 with hint := true }
  | [source, target] =>
    let replaced := replace (replacements (chosen source) (setOf target)) v.input
    if flags.contains 's' then
      { out := .ofBytes (squeeze (setOf target) replaced.front), stuck := v.input.isEndless }
    else { out := replaced }
  | _ :: _ :: extra :: _ => .misuse ("extra operand " ++ inMarks extra) 1

/-- The number of words between blanks. -/
def countWords (bytes : List UInt8) : Nat :=
  (bytes.foldl (fun (n, inside) b =>
    let blank := b == 32 || (9 ≤ b && b ≤ 13)
    (if blank || inside then n else n + 1, !blank)) (0, false)).1

/-- A number at the end of some places. -/
def column (places n : Nat) : String :=
  let text := toString n
  String.ofList (List.replicate (places - text.length) ' ') ++ text

/-- Counts lines, words, characters or bytes. A file that cannot be opened is not counted. -/
def wc (v : View) : Effect :=
  let flags := (v.arguments.filter fun a => a.startsWith "-" && a.length > 1).flatMap
    fun a => a.toList.drop 1
  let files := v.arguments.filter fun a => !a.startsWith "-" || a == "-"
  let (stream, e) := v.gather View.unreadable files
  let counts := [('l', stream.front.count Stream.lineFeed), ('w', countWords stream.front),
    ('m', (Text.Utf8.decodeLossy stream.front).length), ('c', stream.front.length)]
  let wanted := counts.filter fun (f, _) => if flags.isEmpty then f != 'm' else flags.contains f
  let shown := match wanted with
    | [(_, n)] => toString n
    | _ => " ".intercalate (wanted.map fun (_, n) => column 7 n)
  let names := if files.isEmpty then "" else " " ++ " ".intercalate files
  if e.status != 0 && !files.any v.isFolder then e
  else { e with out := .ofText (shown ++ names ++ "\n"), stuck := stream.isEndless }

/-- Lines without the line feeds that end them. -/
def bareLines (bytes : List UInt8) : List (List UInt8) :=
  (Stream.lines bytes).map fun line => line.filter (· != Stream.lineFeed)

/-- Lines as output. -/
def ofLines (all : List (List UInt8)) : List UInt8 :=
  all.flatMap (· ++ [Stream.lineFeed])

/-- The order of bytes. -/
def bytesLE (a b : List UInt8) : Bool := !(b.map UInt8.toNat).lex (a.map UInt8.toNat) (· < ·)

/-- The number at the front of a line. -/
def leading (line : List UInt8) : Int :=
  Format.integerOf (Text.Utf8.decodeLossy (line.dropWhile fun b => b == 32 || b == 9))

/-- Puts lines in order, by their bytes or by the numbers they start with. -/
def sort (v : View) : Effect :=
  let flags := (v.arguments.filter fun a => a.startsWith "-" && a.length > 1).flatMap
    fun a => a.toList.drop 1
  let files := v.arguments.filter fun a => !a.startsWith "-" || a == "-"
  let (stream, e) := v.gather (fun name f => "cannot read: " ++ View.unreadable name f) files
  let le (a b : List UInt8) : Bool :=
    if flags.contains 'n' && leading a != leading b then leading a ≤ leading b else bytesLE a b
  let all := (bareLines stream.front).mergeSort fun a b =>
    if flags.contains 'r' then le b a else le a b
  let kept := if flags.contains 'u' then all.eraseReps else all
  if e.status != 0 then { e with status := 2 }
  else { out := .ofBytes (ofLines kept), stuck := stream.isEndless }

/-- Keeps one of equal lines in a row, and may count them. -/
def uniq (v : View) : Effect :=
  let (stream, e) := v.gather View.unreadable (v.arguments.filter (!·.startsWith "-"))
  let runs := (bareLines stream.front).splitBy (· == ·)
  let shown := runs.filterMap fun run => run.head?.bind fun line =>
    if v.arguments.contains "-d" && run.length < 2 then none
    else if v.arguments.contains "-u" && run.length != 1 then none
    else if v.arguments.contains "-c" then
      some (Text.Utf8.encode (column 7 run.length ++ " ") ++ line)
    else some line
  { e with out := .ofBytes (ofLines shown), stuck := stream.isEndless }

/-- Writes each line backwards. -/
def rev (v : View) : Effect :=
  let (stream, e) := v.gather View.unreadable v.arguments
  let turn (line : List UInt8) : List UInt8 :=
    Text.Utf8.encode (String.ofList (Text.Utf8.decodeLossy line).toList.reverse)
  { e with
    out := .ofBytes ((Stream.lines stream.front).flatMap fun line =>
      turn (line.filter (· != Stream.lineFeed)) ++ line.filter (· == Stream.lineFeed))
    stuck := stream.isEndless }

/-- The places that a list of numbers and ranges asks for. -/
def places (text : String) (n : Nat) : Bool :=
  (Text.splitAll ',' text.toList).any fun range =>
    let (a, rest) := Format.number range
    match rest with
    | [] => n = a
    | '-' :: rest => a ≤ n && (rest.isEmpty || n ≤ (Format.number rest).1)
    | _ => false

/-- Copies some places of each line: bytes, or fields between delimiters. -/
def cut (v : View) : Effect :=
  let value (flag : Char) : Option String :=
    (v.arguments.findSome? fun a =>
      match a.toList with
      | '-' :: f :: c :: rest => if f == flag then some (String.ofList (c :: rest)) else none
      | _ => none).orElse fun _ =>
    (v.arguments.zip (v.arguments.drop 1)).lookup (String.ofList ['-', flag])
  let delimiter := ((value 'd').bind fun d => d.toList.head?).getD '\t'
  let lines := bareLines v.input.front
  match value 'f', (value 'c').orElse fun _ => value 'b' with
  | some list, _ =>
    let pick (line : List UInt8) : List UInt8 :=
      let fields := Text.splitAll delimiter (Text.Utf8.decodeLossy line).toList
      if fields.length < 2 then line
      else
        let kept := (fields.zipIdx 1).filterMap fun (f, i) => if places list i then some f else none
        Text.Utf8.encode ((String.ofList [delimiter]).intercalate (kept.map String.ofList))
    { out := .ofBytes (ofLines (lines.map pick)), stuck := v.input.isEndless }
  | none, some list =>
    let pick (line : List UInt8) : List UInt8 :=
      (line.zipIdx 1).filterMap fun (b, i) => if places list i then some b else none
    { out := .ofBytes (ofLines (lines.map pick)), stuck := v.input.isEndless }
  | none, none => .misuse "you must specify a list of bytes, characters, or fields" 1

/-- Copies blocks from a file or its input. -/
def dd (v : View) : Effect :=
  let operand (name : String) : Option String :=
    v.arguments.findSome? fun a =>
      if a.startsWith (name ++ "=") then some (String.ofList (a.toList.drop (name.length + 1)))
      else none
  let name := operand "if"
  let source := match name with
    | some name => v.openFile name
    | none => .ok v.input
  match source with
  | .error f => .complain ("failed to open '" ++ name.getD "" ++ "': " ++ f.wording) 1
  | .ok stream =>
    match operand "count" with
    | some count => .writes (stream.take (scaled count * ((operand "bs").map scaled).getD 512))
    | none => { out := stream }

end LayerPress.Host.Filter
