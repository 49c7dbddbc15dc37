import LayerPress.Host.Expansion
import LayerPress.Host.Installation
import LayerPress.Host.Reader

/-!
# The state of a shell

A shell keeps its variables, its functions and options, what it does about signals, the time
passed and a log of what was written when. It says how it ended: by itself, by a signal, or not at
all. Commands in the background are carried out at once, and the time at which they would have
been done is kept with them.
-/

namespace LayerPress.Host

/-- How far a shell has come. It may be on its way out of some loops, to the next turn of one, or
out of a function. -/
inductive Ending where
  | running
  | ended
  | killed (signal : Nat)
  | stuck
  | leaving (loops : Nat)
  | repeating (loops : Nat)
  | returning
  deriving DecidableEq, Repr

/-- Where a stream leads: into the log under a number, into a file, or nowhere. -/
inductive Sink where
  | log (number : Nat)
  | file (path : String)
  | nowhere
  deriving DecidableEq, Repr

/-- Something written under a number, when, and by which job. -/
structure Entry where
  number : Nat
  time : Nat
  job : Nat
  stream : Stream

/-- A command in the background: its status, when it is done unless it never is, the numbers it
may write under until then, and the signal that ended it if one did. -/
structure Job where
  number : Nat
  status : Nat
  done : Option Nat
  holds : List Nat
  signal : Option Nat
  deriving DecidableEq, Repr

/-- A shell at work. The log is newest first, and so are jobs. Within a part of it that has its
own variables, `outer` are the traps of the whole, and only the jobs that the part has `started`
are its own. The status of the last substitution is `produced`; it is not yet the shell's. -/
structure Shell where
  host : Installation
  name : String
  number : Nat
  arguments : List String
  bindings : List (String × String)
  exported : List String
  constants : List String
  functions : List (String × Script)
  locals : Option (List (String × Option String))
  options : List Char
  traps : List (Nat × String)
  outer : Option (List (Nat × String))
  pending : List Nat
  tested : Bool
  loops : Nat
  line : Nat
  within : String
  status : Nat
  produced : Nat
  clock : Nat
  job : Nat
  jobs : List Job
  started : List Nat
  input : Stream
  sinks : List (Nat × Sink)
  pipes : Nat
  log : List Entry
  ending : Ending

namespace Shell

/-- A shell that has done nothing. -/
def fresh (host : Installation) (name : String) (arguments : List String) : Shell where
  host := host
  name := name
  number := 4000
  arguments := arguments
  bindings := []
  exported := []
  constants := []
  functions := []
  locals := none
  options := []
  traps := []
  outer := none
  pending := []
  tested := false
  loops := 0
  line := 1
  within := ""
  status := 0
  produced := 0
  clock := 0
  job := 0
  jobs := []
  started := []
  input := .empty
  sinks := [(1, .log 1), (2, .log 2)]
  pipes := 3
  log := []
  ending := .running

/-! ## Output and time -/

/-- What was written under a number, in the order of time. -/
def entries (s : Shell) (number : Nat) : List Entry :=
  (s.log.reverse.filter (·.number == number)).mergeSort fun a b => a.time ≤ b.time

/-- The bytes written under a number. -/
def bytesWritten (s : Shell) (number : Nat) : List UInt8 :=
  (s.entries number).flatMap (·.stream.front)

/-- What was written under a number; only what was written last can be endless. -/
def written (s : Shell) (number : Nat) : Stream :=
  ⟨s.bytesWritten number, ((s.entries number).getLast?.map (·.stream.cycle)).getD []⟩

/-- When nothing more can be written under some numbers, if ever. -/
def quietFrom (s : Shell) (numbers : List Nat) : Option Nat :=
  s.jobs.foldl (fun t j =>
    if j.holds.any numbers.contains then
      match t, j.done with
      | some t, some done => some (max t done)
      | _, _ => none
    else t) (some s.clock)

/-- The shell goes on with the next command. -/
def isRunning (s : Shell) : Bool := s.ending == .running

/-- The shell with a status. -/
def withStatus (s : Shell) (status : Nat) : Shell := { s with status := status }

/-- The shell that carries out no more commands. -/
def closed (s : Shell) : Shell := { s with ending := .ended }

/-- The shell that waits for ever. -/
def hung (s : Shell) : Shell := { s with ending := .stuck }

/-- The file with bytes at its end. -/
def appendFile (host : Installation) (path : String) (bytes : List UInt8) : Installation :=
  let p := Path.ofText path
  let before := match host.disk.locate p with
    | .ok (_, .file (.bytes data)) => data
    | _ => []
  { host with disk := (host.disk.writeFile p (.bytes (before ++ bytes))).toOption.getD host.disk }

/-- Writes to a stream. Writing for ever never ends. -/
def write (s : Shell) (stream : Nat) (t : Stream) : Shell :=
  let s := if t.isEndless then s.hung else s
  match s.sinks.lookup stream with
  | some (.log number) =>
    if t = .empty then s else { s with log := ⟨number, s.clock, s.job, t⟩ :: s.log }
  | some (.file path) => { s with host := appendFile s.host path t.front }
  | _ => s

/-- Writes a text to a stream. -/
def say (s : Shell) (stream : Nat) (text : String) : Shell := s.write stream (.ofText text)

/-- Writes a complaint and sets the status. -/
def complain (s : Shell) (text : String) (status : Nat) : Shell :=
  (s.say 2 (s.name ++ ": " ++ toString s.line ++ ": " ++ text ++ "\n")).withStatus status

/-- Writes a complaint with which the shell ends. -/
def giveUp (s : Shell) (text : String) (status : Nat) : Shell :=
  (s.complain text status).closed

/-! ## Variables -/

/-- The value of a variable, if it is set. -/
def value? (s : Shell) (name : String) : Option String :=
  match name with
  | "?" => some (toString s.status)
  | "$" => some (toString s.number)
  | "#" => some (toString s.arguments.length)
  | "!" => s.jobs.head?.map fun j => toString j.number
  | "-" => some (String.ofList s.options)
  | "0" => some s.name
  | "*" | "@" =>
    if s.arguments.isEmpty then none
    else
      let separator := match s.bindings.lookup "IFS" with
        | some separators => String.ofList (separators.toList.take 1)
        | none => " "
      some (separator.intercalate s.arguments)
  | _ =>
    if name.all (·.isDigit) then s.arguments[(Format.integerOf name).toNat - 1]?
    else s.bindings.lookup name

/-- The value of a variable, or nothing. -/
def value (s : Shell) (name : String) : String := (s.value? name).getD ""

/-- A variable has to be set where the shell is told to insist on it. -/
def insists (s : Shell) (name : String) : Bool :=
  s.options.contains 'u' && name != "@" && name != "*" && (s.value? name).isNone

/-- The characters that separate the words of a value. -/
def separators (s : Shell) : List Char :=
  ((s.bindings.lookup "IFS").getD " \t\n").toList

/-- The shell with a variable set, or a complaint about one that may not change. -/
def assign (s : Shell) (name value : String) : Shell :=
  if s.constants.contains name then s.giveUp (name ++ ": is read only") 2
  else { s with
    bindings := (name, value) :: s.bindings.filter (·.1 != name)
    exported := if s.options.contains 'a' then name :: s.exported else s.exported }

/-- The shell without a variable. -/
def forget (s : Shell) (name : String) : Shell :=
  { s with bindings := s.bindings.filter (·.1 != name) }

/-- The shell with a variable as it was before. -/
def restore (s : Shell) (name : String) : Option String → Shell
  | some value => { s with bindings := (name, value) :: s.bindings.filter (·.1 != name) }
  | none => s.forget name

/-! ## Files and tools -/

/-- The stream a file name leads to. -/
def openFile (s : Shell) (name : String) : Except Fault Stream :=
  if name = "/dev/null" then .ok .empty
  else if name = "/dev/zero" then .ok ⟨[], [0]⟩
  else if name = "/dev/stdin" then .ok s.input
  else match s.host.disk.locate (Path.ofText name) with
    | .ok (_, .file (.bytes data)) => .ok (.ofBytes data)
    | .ok (_, .file (.archive _)) => .ok .empty
    | .ok (_, .folder _) => .error .isADirectory
    | .error f => .error f

/-- What a tool sees in this shell. -/
def view (s : Shell) (arguments : List String) : View where
  arguments := arguments
  input := s.input
  openFile := s.openFile
  isFolder := fun name => s.host.disk.isFolder (Path.ofText name)
  isDevice := fun name => name = "/dev/null" || name = "/dev/zero"

/-- The shell after a tool that calls itself by a name. -/
def after (s : Shell) (speaker tool : String) (e : Effect) : Shell :=
  let s := { s with clock := s.clock + e.time, status := e.status }
  let s := (s.say 2 (e.complaints speaker tool)).write 1 e.out
  if e.stuck then s.hung else s

/-- The sink a redirection's target names, if it is one of the devices. -/
def device? (s : Shell) (target : String) : Option Sink :=
  if target = "/dev/null" then some .nowhere
  else if target = "/dev/stdout" then s.sinks.lookup 1
  else if target = "/dev/stderr" then s.sinks.lookup 2
  else none

/-- The shell with a stream leading to a sink, or closed. -/
def lead (s : Shell) (stream : Nat) (sink : Option Sink) : Shell :=
  { s with sinks := (sink.map (stream, ·)).toList ++ s.sinks.filter (·.1 != stream) }

/-- The shell with one redirection whose target is known, or the shell with a complaint. -/
def redirect (s : Shell) (r : Redirection) (target : String) : Except Shell Shell :=
  match r with
  | .write stream appending _ =>
    match s.device? target with
    | some sink => .ok (s.lead stream (some sink))
    | none =>
      let p := Path.ofText target
      if appending && s.host.disk.isFile p then .ok (s.lead stream (some (.file target)))
      else match s.host.disk.writeFile p (.bytes []) with
        | .ok disk =>
          .ok ({ s with host := { s.host with disk := disk } }.lead stream (some (.file target)))
        | .error f =>
          let cause := if f = .notFound then "Directory nonexistent" else f.wording
          .error (s.complain ("cannot create " ++ target ++ ": " ++ cause) 2)
  | .read _ =>
    match s.openFile target with
    | .ok input => .ok { s with input := input }
    | .error f =>
      let cause := if f = .notFound then "No such file" else f.wording
      .error (s.complain ("cannot open " ++ target ++ ": " ++ cause) 2)
  | .inset _ => .ok { s with input := .ofText target }
  | .copy stream _ =>
    if target = "-" then .ok (s.lead stream none)
    else
      let source := (Format.integerOf target).toNat
      if stream = 0 || source = 0 then .ok s
      else match s.sinks.lookup source with
        | some sink => .ok (s.lead stream (some sink))
        | none => .error (s.complain (target ++ ": Bad file descriptor") 2)

/-! ## Signals -/

/-- The numbers of the signals by name. -/
def signals : List (String × Nat) :=
  [("HUP", 1), ("INT", 2), ("QUIT", 3), ("ILL", 4), ("TRAP", 5), ("ABRT", 6), ("BUS", 7),
    ("FPE", 8), ("KILL", 9), ("USR1", 10), ("SEGV", 11), ("USR2", 12), ("PIPE", 13), ("ALRM", 14),
    ("TERM", 15), ("STKFLT", 16), ("CHLD", 17), ("CONT", 18), ("STOP", 19), ("TSTP", 20),
    ("TTIN", 21), ("TTOU", 22), ("URG", 23), ("XCPU", 24), ("XFSZ", 25), ("VTALRM", 26),
    ("PROF", 27), ("WINCH", 28), ("POLL", 29), ("PWR", 30), ("SYS", 31)]

/-- The signal a text names. -/
def signal? (text : String) : Option Nat :=
  if !text.isEmpty && text.all (·.isDigit) then
    some (Format.integerOf text).toNat |>.filter (· < 65)
  else signals.lookup text.toUpper

/-- What a signal does to a program that has not provided for it. -/
def endingOf (signal : Nat) : Ending :=
  if signal = 0 || [17, 18, 23, 28].contains signal then .running
  else if 19 ≤ signal && signal ≤ 22 then .stuck
  else .killed signal

/-- What a shell says when a program it waited for was ended by a signal. -/
def epitaph (signal : Nat) : String :=
  match signal with
  | 2 | 13 => ""
  | 1 => "Hangup\n"
  | 6 => "Aborted\n"
  | 9 => "Killed\n"
  | 11 => "Segmentation fault\n"
  | 15 => "Terminated\n"
  | _ => "Signal " ++ toString signal ++ "\n"

/-- Sends a signal to the whole shell, which may have a trap for it. -/
def receive (s : Shell) (signal : Nat) : Shell :=
  match (if signal = 9 || signal = 19 then none else (s.outer.getD s.traps).lookup signal) with
  | some action => if action.isEmpty then s else { s with pending := s.pending ++ [signal] }
  | none => { s with ending := endingOf signal }

/-- Ends a job by a signal; what it would have written later is not written. -/
def endJob (s : Shell) (number signal : Nat) : Shell :=
  match s.jobs.find? (·.number == number), endingOf signal with
  | some j, .killed _ =>
    if j.done.any (· ≤ s.clock) then s
    else { s with
      jobs := s.jobs.map fun k =>
        if k.number = number then
          { k with status := 128 + signal, done := some s.clock, signal := some signal }
        else k
      log := s.log.filter fun e => e.job != number || e.time ≤ s.clock }
  | _, _ => s

/-! ## Parts that have their own variables -/

/-- A part of the shell with its own variables, which ignores the signals that are ignored. -/
def apart (s : Shell) : Shell :=
  { s with
    outer := some (s.outer.getD s.traps)
    traps := s.traps.filter fun (n, action) => n != 0 && action.isEmpty
    started := [] }

/-- What a program started by the shell takes over from it. -/
def successor (s : Shell) (name : String) (arguments : List String) : Shell :=
  { s with
    name := name
    arguments := arguments
    bindings := s.bindings.filter fun (n, _) => s.exported.contains n
    constants := []
    functions := []
    locals := none
    options := []
    traps := s.traps.filter fun (n, action) => n != 0 && action.isEmpty
    outer := none
    pending := []
    tested := false
    loops := 0
    line := 1
    within := ""
    status := 0
    started := [] }

/-- The shell after a part of it that had its own variables and streams. -/
def resume (s inner : Shell) : Shell :=
  { s with
    host := inner.host
    status := inner.status
    clock := inner.clock
    jobs := inner.jobs
    log := inner.log
    pipes := inner.pipes
    pending := inner.pending
    ending := match inner.ending with
      | .killed signal => .killed signal
      | .stuck => .stuck
      | _ => .running }

/-- The shell after a program that ran on its own. -/
def reap (s inner : Shell) : Shell :=
  let t := { s.resume inner with pending := s.pending, status := inner.status % 256 }
  match inner.ending with
  | .killed signal =>
    ({ t with ending := .running }.say 2 (epitaph signal)).withStatus (128 + signal)
  | _ => t

/-- What a pipe or a substitution takes in: a part whose output is under a number of its own. -/
def capture (s : Shell) : Shell × Nat :=
  ({ s.apart with log := [], pipes := s.pipes + 1 }.lead 1 (some (.log s.pipes)), s.pipes)

/-- The shell after a captured part, which is over when nothing holds its output any more; what
was not captured is in the log. -/
def absorb (s inner : Shell) (number : Nat) : Shell :=
  let others := inner.log.filter fun e => e.number != number
  let t := { s.resume inner with log := others ++ s.log }
  match inner.quietFrom [number] with
  | some time => { t with clock := time }
  | none => t.hung

/-- The shell after a substitution. -/
def substituted (s inner : Shell) (number : Nat) : Shell :=
  { s.absorb inner number with status := s.status, produced := inner.status % 256 }

/-- A substitution's value: the output without the line feeds at its end. -/
def outputText (s : Shell) (number : Nat) : String :=
  let bytes := (s.bytesWritten number).reverse.dropWhile (· == Stream.lineFeed)
  Text.Utf8.decodeLossy (bytes.reverse.filter (· != 0))

/-- The text of a word that no value is needed for. -/
def plainText (w : Word) : String :=
  String.join (w.map fun
    | .text t _ => t
    | _ => "")

/-- The sinks of a command that is about to start, as far as its redirections tell. -/
def sinksOf (s : Shell) (script : Script) : List (Nat × Sink) :=
  (script.redirections.foldl (fun s r =>
    match r with
    | .write stream _ w => s.lead stream (some ((s.device? (plainText w)).getD .nowhere))
    | .copy stream w => s.lead stream (s.sinks.lookup (Format.integerOf (plainText w)).toNat)
    | _ => s) s).sinks

/-- The shell that starts a job, which does not read the input. -/
def starting (s : Shell) (number : Nat) : Shell :=
  { s.apart with input := .empty, job := number, jobs := ⟨number, 0, none, [], none⟩ :: s.jobs }

/-- The shell with a job that was carried out from here on. A signal that ended it was meant for
the whole shell. -/
def launched (s done : Shell) (number : Nat) (holds : List Nat) : Shell :=
  let job : Job :=
    { number := number
      status := done.status % 256
      done := if done.ending = .stuck then none else some done.clock
      holds := holds
      signal := none }
  { s.resume done with
    clock := s.clock
    status := 0
    ending := match done.ending with
      | .killed signal => .killed signal
      | _ => s.ending
    jobs := job :: done.jobs.filter fun j => j.number != number
    started := number :: s.started }

/-- The shell that has waited for some jobs. -/
def awaiting (s : Shell) (jobs : List Job) : Shell :=
  jobs.foldl (fun s j =>
    match j.done with
    | some time => { s with clock := max s.clock time, status := j.status }
    | none => s.hung) s

end Shell

end LayerPress.Host
