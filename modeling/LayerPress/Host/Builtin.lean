import LayerPress.Host.Shell

/-!
# The commands a shell carries out itself

They change the shell rather than start a program. A special one that is called wrongly ends the
shell.
-/

namespace LayerPress.Host.Shell

/-- The special commands: an assignment before one of them lasts. -/
def specials : List String :=
  [":", ".", "break", "continue", "eval", "exec", "exit", "export", "readonly", "return", "set",
    "shift", "times", "trap", "unset"]

/-- The tools that a shell has built in. -/
def inlineTools : List String := ["printf", "test", "[", "true", "false"]

/-- The other commands that a shell has built in. -/
def regulars : List String :=
  ["alias", "bg", "cd", "command", "echo", "fg", "getopts", "hash", "jobs", "kill", "local", "pwd",
    "read", "type", "ulimit", "umask", "unalias", "wait"] ++ inlineTools

/-- The number that a text of digits spells, if it is no larger than counts may be. -/
def count? (text : String) : Option Nat :=
  if text.isEmpty || !text.all (·.isDigit) then none
  else some (Format.integerOf text).toNat |>.filter (· < Nat.pow 2 31)

/-- A complaint of a command. -/
def grumble (s : Shell) (command text : String) (status : Nat) : Shell :=
  s.complain (command ++ ": " ++ text) status

/-! ## Leaving -/

/-- Ends the shell with the status of a text. -/
def exit (s : Shell) (arguments : List String) : Shell :=
  match arguments with
  | [] => s.closed
  | a :: _ =>
    match count? a with
    | some n => (s.withStatus (n % 256)).closed
    | none => (s.grumble "exit" ("Illegal number: " ++ a) 2).closed

/-- Leaves a function, or the script outside of one. -/
def leave (s : Shell) (arguments : List String) : Shell :=
  match arguments with
  | [] => { s with ending := .returning }
  | a :: _ =>
    match count? a with
    | some n => { s with ending := .returning, status := n }
    | none => (s.grumble "return" ("Illegal number: " ++ a) 2).closed

/-- Leaves loops, or goes on with the next turn of one. -/
def jump (s : Shell) (command : String) (ending : Nat → Ending) (arguments : List String) :
    Shell :=
  match (match arguments with | [] => some 1 | a :: _ => (count? a).filter (0 < ·)) with
  | some n => if s.loops = 0 then s.withStatus 0
    else { s with ending := ending (min n s.loops), status := 0 }
  | none => (s.grumble command ("Illegal number: " ++ arguments.headD "") 2).closed

/-! ## Variables and options -/

/-- Does something to each variable of a list, some of which are given values. -/
def declare (s : Shell) (command : String) (mark : Shell → String → Shell) :
    List String → Shell
  | [] => s.withStatus 0
  | a :: more =>
    let (name, value) := match Text.splitFirst '=' a.toList with
      | some (name, value) => (name, some (String.ofList value))
      | none => (a.toList, none)
    if !Token.isName name then
      (s.grumble command (String.ofList name ++ ": bad variable name") 2).closed
    else
      let name := String.ofList name
      let s := match value with
        | some value => (mark s name).assign name value
        | none => mark s name
      if s.isRunning then s.declare command mark more else s

/-- A variable whose value is given back when the function is left. -/
def makeLocal (s : Shell) (name : String) : Shell :=
  match s.locals with
  | some saved =>
    if saved.any (·.1 == name) then s
    else { s with locals := some ((name, s.bindings.lookup name) :: saved) }
  | none => s

/-- The options by name. -/
def optionNames : List (String × Char) :=
  [("allexport", 'a'), ("errexit", 'e'), ("noglob", 'f'), ("noexec", 'n'), ("nounset", 'u'),
    ("verbose", 'v'), ("xtrace", 'x'), ("noclobber", 'C'), ("notify", 'b'), ("monitor", 'm')]

/-- The letters of the options. -/
def optionLetters : List Char := "aefnuvxIimsbCVE".toList

/-- The shell with options switched on or off. -/
def withOptions (s : Shell) (switchOn : Bool) (letters : List Char) : Shell :=
  let others := s.options.filter fun c => !letters.contains c
  { s with options := if switchOn then letters ++ others else others }

/-- Switches options and replaces the arguments. -/
def setUp (s : Shell) : List String → Shell
  | [] => s.withStatus 0
  | "--" :: arguments => { s with arguments := arguments, status := 0 }
  | "-" :: [] => s.withStatus 0
  | "-" :: arguments => { s with arguments := arguments, status := 0 }
  | "-o" :: [] | "+o" :: [] => s.withStatus 0
  | "-o" :: name :: more =>
    match optionNames.lookup name with
    | some c => (s.withOptions true [c]).setUp more
    | none => (s.grumble "set" ("Illegal option -o " ++ name) 2).closed
  | "+o" :: name :: more =>
    match optionNames.lookup name with
    | some c => (s.withOptions false [c]).setUp more
    | none => (s.grumble "set" ("Illegal option +o " ++ name) 2).closed
  | a :: more =>
    let letters := a.toList.drop 1
    if a.startsWith "-" || a.startsWith "+" then
      match letters.find? fun c => !optionLetters.contains c with
      | some c =>
        let sign := String.ofList (a.toList.take 1)
        (s.grumble "set" ("Illegal option " ++ sign ++ String.ofList [c]) 2).closed
      | none => (s.withOptions (a.startsWith "-") letters).setUp more
    else { s with arguments := a :: more, status := 0 }

/-- Drops arguments at the front. -/
def shift (s : Shell) (arguments : List String) : Shell :=
  match (match arguments with | [] => some 1 | a :: _ => count? a) with
  | some n =>
    if s.arguments.length < n then (s.grumble "shift" "can't shift that many" 2).closed
    else { s with arguments := s.arguments.drop n, status := 0 }
  | none => (s.grumble "shift" ("Illegal number: " ++ arguments.headD "") 2).closed

/-- Unsets variables or functions. -/
def unset (s : Shell) : List String → Shell
  | "-f" :: names =>
    { s with functions := s.functions.filter (!names.contains ·.1), status := 0 }
  | "-v" :: names => (names.foldl forget s).withStatus 0
  | names => (names.foldl forget s).withStatus 0

/-! ## Input -/

/-- The characters of a line with a mark on those a backslash stands before, and whether the line
goes on with the next. -/
def unescapeLine : List Char → List (Char × Bool) × Bool
  | ['\\'] => ([], true)
  | '\\' :: c :: rest =>
    let (more, continued) := unescapeLine rest
    ((c, true) :: more, continued)
  | c :: rest =>
    let (more, continued) := unescapeLine rest
    ((c, false) :: more, continued)
  | [] => ([], false)

/-- The characters of the next line of the input, whether the input had it whole, and the bytes
used. The number bounds the lines. -/
def nextLine (raw : Bool) : Nat → Stream → List (Char × Bool) × Bool × Nat
  | 0, _ => ([], false, 0)
  | fuel + 1, input =>
    let line := input.takeLines 1
    let text := (Text.Utf8.decodeLossy (line.filter (· != Stream.lineFeed))).toList
    let whole := line.getLast? == some Stream.lineFeed
    let (chars, continued) := if raw then (text.map (·, false), false) else unescapeLine text
    if continued && whole then
      let (more, whole, used) := nextLine raw fuel (input.drop line.length)
      (chars ++ more, whole, line.length + used)
    else (chars, whole, line.length)

/-- The values that variables get from a line: a word each, and the last one the rest. -/
def wordsFor (separates : Char × Bool → Bool) :
    List String → List (Char × Bool) → List (String × String)
  | [], _ => []
  | [name], cs =>
    let kept := (cs.reverse.dropWhile fun c => separates c && isSpace c.1).reverse
    [(name, String.ofList (kept.map (·.1)))]
  | name :: more, cs =>
    let word := cs.takeWhile (!separates ·)
    let after := (cs.drop word.length).dropWhile fun c => separates c && isSpace c.1
    let after := match after with
      | c :: rest =>
        if separates c then rest.dropWhile fun c => separates c && isSpace c.1 else after
      | [] => []
    (name, String.ofList (word.map (·.1))) :: wordsFor separates more after

/-- Reads a line of the input into variables. -/
def readLine (s : Shell) (arguments : List String) : Shell :=
  let names := arguments.filter (· != "-r")
  if names.isEmpty then s.grumble "read" "arg count" 2
  else
    let (chars, whole, used) := nextLine (arguments.contains "-r") 1000 s.input
    let separates (c : Char × Bool) : Bool := !c.2 && s.separators.contains c.1
    let chars := chars.dropWhile fun c => separates c && isSpace c.1
    let s := { s with input := s.input.drop used, status := if whole then 0 else 1 }
    (wordsFor separates names chars).foldl (fun s (name, value) => s.assign name value) s

/-! ## Signals and jobs -/

/-- How the command that sends signals is used. -/
def killUsage : String :=
  "Usage: kill [-s sigspec | -signum | -sigspec] [pid | job]... or\nkill -l [exitstatus]"

/-- Sends a signal to each of some programs. -/
def signalAll (s : Shell) (signal : Nat) : List String → Shell
  | [] => s
  | target :: more =>
    if !s.isRunning then s
    else if target.startsWith "%" then
      s.grumble "kill" ("No such job: " ++ target) 2
    else match count? target with
      | none => s.grumble "kill" ("Illegal number: " ++ target) 2
      | some n =>
        let s := if n = s.number || n = 0 then (s.withStatus 0).receive signal
          else if s.jobs.any (·.number == n) then (s.withStatus 0).endJob n signal
          else s.grumble "kill" "No such process\n" 1
        s.signalAll signal more

/-- Sends a signal, or names one. -/
def kill (s : Shell) (arguments : List String) : Shell :=
  let send (signal : Option Nat) (name : String) (targets : List String) : Shell :=
    match signal, targets with
    | none, _ => s.grumble "kill" ("invalid signal number or name: " ++ name) 2
    | some _, [] => s.grumble "kill" killUsage 2
    | some signal, targets => s.signalAll signal targets
  match arguments with
  | [] => s.grumble "kill" killUsage 2
  | "-l" :: rest =>
    let names := match rest with
      | [] => "0" :: signals.map (·.1)
      | n :: _ => (signals.filter fun (_, k) => some k = (count? n).map (· % 128)).map (·.1)
    (s.say 1 ("\n".intercalate names ++ "\n")).withStatus 0
  | "--" :: targets => send (some 15) "" targets
  | "-s" :: name :: targets => send (signal? name) name targets
  | a :: targets =>
    if !a.startsWith "-" then send (some 15) "" (a :: targets)
    else
      let name := String.ofList (a.toList.drop 1)
      match signal? name with
      | some signal => send (some signal) name targets
      | none =>
        if name.startsWith "s" then
          let name := String.ofList (name.toList.drop 1)
          send (signal? name) name targets
        else s.grumble "kill" ("Illegal option -" ++ String.ofList (name.toList.take 1)) 2

/-- The condition of a trap: a signal, or the end of the shell. -/
def condition? (text : String) : Option Nat :=
  if text.toUpper = "EXIT" then some 0 else signal? text

/-- The name of a trap's condition. -/
def conditionName (n : Nat) : String :=
  if n = 0 then "EXIT" else ((signals.find? (·.2 == n)).map (·.1)).getD (toString n)

/-- Sets what is done about some conditions. -/
def setTraps (s : Shell) (action : Option String) : List String → Shell
  | [] => s
  | c :: more =>
    match condition? c with
    | some n =>
      let others := s.traps.filter (·.1 != n)
      { s with traps := (action.map (n, ·)).toList ++ others }.setTraps action more
    | none => (s.say 2 ("trap: " ++ c ++ ": bad trap\n")).withStatus 1

/-- Shows the traps, or sets some of them. -/
def trap (s : Shell) (arguments : List String) : Shell :=
  let s := s.withStatus 0
  match (if arguments.head? = some "--" then arguments.drop 1 else arguments) with
  | [] =>
    let all := s.traps.mergeSort fun a b => a.1 ≤ b.1
    s.say 1 (String.join (all.map fun (n, action) =>
      "trap -- '" ++ action ++ "' " ++ conditionName n ++ "\n"))
  | [c] => s.setTraps none [c]
  | "-" :: conditions => s.setTraps none conditions
  | action :: conditions => s.setTraps (some action) conditions

/-- Waits for all jobs, or for some. -/
def wait (s : Shell) (arguments : List String) : Shell :=
  match arguments with
  | [] => (s.awaiting (s.jobs.filter fun j => s.started.contains j.number)).withStatus 0
  | _ => arguments.foldl (fun s a =>
      match s.jobs.find? fun j => some j.number = count? a with
      | some j => (s.awaiting [j]).say 2 ((j.signal.map epitaph).getD "")
      | none => s.withStatus 127) s

/-! ## Folders and names -/

/-- Goes to a folder. -/
def goTo (s : Shell) (arguments : List String) : Shell :=
  match arguments with
  | [] | "" :: _ => s.withStatus 0
  | path :: _ =>
    if s.host.disk.isFolder (Path.ofText path) then (s.assign "PWD" path).withStatus 0
    else s.grumble "cd" ("can't cd to " ++ path) 2

/-- The reserved words. -/
def keywords : List String :=
  Script.closers ++ ["!", "\x7b", "case", "for", "if", "in", "until", "while"]

/-- Where a command of a name is: a word of the shell, or a program's path. -/
def whereIs? (s : Shell) (name : String) : Option (String × String) :=
  if keywords.contains name then some ("is a shell keyword", name)
  else if (s.functions.lookup name).isSome then some ("is a shell function", name)
  else if specials.contains name then some ("is a special shell builtin", name)
  else if regulars.contains name then some ("is a shell builtin", name)
  else match s.host.find name with
    | .ok _ =>
      let path := if name.contains '/' then name else "/usr/bin/" ++ name
      some ("is " ++ path, path)
    | .error _ => none

/-- Says where commands are. -/
def describe (s : Shell) (long : Bool) (names : List String) : Shell :=
  names.foldl (fun s name =>
    match s.whereIs? name with
    | some (sentence, short) => s.say 1 ((if long then name ++ " " ++ sentence else short) ++ "\n")
    | none => (if long then s.say 1 (name ++ ": not found\n") else s).withStatus 127)
    (s.withStatus 0)

/-! ## All of them -/

/-- The commands that a shell carries out itself without reading more script. -/
def builtin? (s : Shell) (words : List String) : Option Shell :=
  match words with
  | [] => none
  | name :: arguments =>
    let quiet := s.withStatus 0
    match name with
    | "exit" => some (s.exit arguments)
    | "return" => some (s.leave arguments)
    | "break" => some (s.jump name .leaving arguments)
    | "continue" => some (s.jump name .repeating arguments)
    | "export" => some (s.declare name (fun s n => { s with exported := n :: s.exported })
        (arguments.filter (· != "-p")))
    | "readonly" =>
      let done := s.declare name (fun s _ => s) (arguments.filter (· != "-p"))
      let names := arguments.map fun a => String.ofList (a.toList.takeWhile (· != '='))
      some { done with constants := names ++ done.constants }
    | "local" =>
      some (if s.locals.isNone then (s.grumble name "not in a function" 2).closed
        else s.declare name makeLocal arguments)
    | "set" => some (s.setUp arguments)
    | "shift" => some (s.shift arguments)
    | "unset" => some (s.unset arguments)
    | "read" => some (s.readLine arguments)
    | "trap" => some (s.trap arguments)
    | "kill" => some (s.kill arguments)
    | "wait" => some (s.wait arguments)
    | "cd" => some (s.goTo arguments)
    | "pwd" => some (quiet.say 1 ((s.bindings.lookup "PWD").getD "/" ++ "\n"))
    | "type" => some (s.describe true arguments)
    | "umask" => some (if arguments.isEmpty then quiet.say 1 "0022\n" else quiet)
    | "echo" =>
      some (if (s.sinks.lookup 1).isNone then s.grumble name "echo: I/O error" 1
        else (s.write 1 (.ofBytes (Format.echo arguments))).withStatus 0)
    | _ =>
      if inlineTools.contains name then
        (Tools.all.lookup name).map fun tool =>
          s.after (s.name ++ ": " ++ toString s.line ++ ": " ++ name) name (tool (s.view arguments))
      else if [":", "alias", "bg", "fg", "hash", "jobs", "times", "ulimit", "unalias"].contains name
      then some quiet
      else if name = "getopts" then some (s.withStatus 1)
      else none

end LayerPress.Host.Shell
