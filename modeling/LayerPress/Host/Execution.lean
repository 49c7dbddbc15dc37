import LayerPress.Host.Arithmetic
import LayerPress.Host.Launch

/-!
# Carrying out scripts

A script changes the shell, and a run is a function on shells. Commands nest only so deep and
loops turn only so often; a script that asks for more is stuck.
-/

namespace LayerPress.Host.Shell

/-- How often a loop may turn. -/
def patience : Nat := 100000

/-- Turns while told to, at most so often. Beside the shell goes the status of the last turn. -/
def iterate (turn : Shell × Nat → (Shell × Nat) × Bool) : Nat → Shell × Nat → Shell × Nat
  | 0, (s, n) => (s.hung, n)
  | fuel + 1, s =>
    match turn s with
    | (after, true) => iterate turn fuel after
    | (after, false) => after

/-- The shell after a turn of a loop, and whether there is another turn. -/
def turned (s : Shell) : Shell × Bool :=
  match s.ending with
  | .running => (s, true)
  | .leaving n => ({ s with ending := if n ≤ 1 then .running else .leaving (n - 1) }, false)
  | .repeating n =>
    if n ≤ 1 then ({ s with ending := .running }, true)
    else ({ s with ending := .repeating (n - 1) }, false)
  | _ => (s, false)

/-- A word takes in the output of a script. -/
def holdsOutput (w : Word) : Bool :=
  w.any fun
    | .output .. => true
    | _ => false

/-- Writes what is about to be carried out, if the shell is told to. -/
def trace (s : Shell) (assignments : List (String × String)) (arguments : List String) : Shell :=
  if s.options.contains 'x' then
    s.say 2 ("+ " ++ " ".intercalate (assignments.map (fun (n, v) => n ++ "=" ++ v) ++ arguments)
      ++ "\n")
  else s

/-- The shell after a function's body. -/
def returned (s done : Shell) : Shell :=
  let t := (done.locals.getD []).foldl (fun t (name, value) => t.restore name value) done
  { t with
    arguments := s.arguments
    loops := s.loops
    locals := s.locals
    ending := match done.ending with
      | .returning | .leaving _ | .repeating _ => .running
      | e => e }

/-- The shell that was told to end at the first failure ends. -/
def checked (s : Shell) : Shell :=
  if s.isRunning && s.options.contains 'e' && !s.tested && s.status != 0 then s.closed else s

/-- The value of a variable as a part of a word. -/
def variablePart (s : Shell) (name : String) (quoted : Bool) : Part :=
  if name = "@" || (name = "*" && !quoted) then .every s.arguments quoted
  else .value (s.value name) quoted

/-- The complaint about a variable that is not set. -/
def unsetMessage (name : String) (emptyToo : Bool) : String :=
  name ++ ": parameter not set" ++ if emptyToo then " or null" else ""

mutual

/-- Carries out a script. The number bounds the depth. -/
def run : Nat → Script → Shell → Shell
  | 0, _, s => s.hung
  | fuel + 1, script, s =>
    if !s.isRunning || s.options.contains 'n' then s else
    match script with
    | .skip => s
    | .simple line assignments words redirections =>
      let s := { s with line := line }
      let (arguments, s) := expandAll fuel words s
      let special := arguments.head?.any specials.contains
      if !s.isRunning then s
      else match redirectAll fuel redirections s with
      | .error s => settle fuel (if special then s.closed else s)
      | .ok inner =>
        let (given, inner) := assignments.foldl (fun (all, t) (name, w) =>
          let (parts, t) := values fuel w t
          let text := Part.wholeText parts
          let t := if arguments.isEmpty then t.assign name text else t
          (all ++ [(name, text)], t)) (([] : List (String × String)), inner)
        if !inner.isRunning then inner
        else if arguments.isEmpty then
          let t := inner.trace given []
          let takesOutput := (assignments.map (·.2) ++ words).any holdsOutput
          let t := t.withStatus (if takesOutput then t.produced else 0)
          settle fuel { t with sinks := s.sinks, input := s.input }
        else
          let traced := inner.trace given arguments
          if arguments = ["exec"] then traced.withStatus 0
          else
            let start := given.foldl (fun t (n, v) =>
              { t.assign n v with exported := n :: t.exported }) traced
            let done := if start.isRunning then call fuel arguments start else start
            let done := if special || given.isEmpty then done
              else given.foldl (fun t (n, _) =>
                { t.restore n (s.bindings.lookup n) with exported := s.exported }) done
            settle fuel { done with
              sinks := s.sinks
              input := if redirections.any (·.isInput) then s.input else done.input }
    | .inOrder first second => run fuel second (run fuel first s)
    | .both first second =>
      let s := guarded fuel first s
      if s.status = 0 then run fuel second s else s
    | .either first second =>
      let s := guarded fuel first s
      if s.status = 0 then s else run fuel second s
    | .not inner =>
      let s := guarded fuel inner s
      s.withStatus (if s.status = 0 then 1 else 0)
    | .pipe first second =>
      let (start, number) := s.capture
      let left := finish fuel (run fuel first start)
      let piped := left.written number
      match left.ending with
      | .killed _ => s.absorb left number
      | ending =>
        if ending = .stuck && !piped.isEndless then (s.absorb left number).hung
        else
          let base := { s.absorb left number with ending := .running }
          let right := finish fuel
            (run fuel second { base.apart with clock := s.clock, input := piped })
          let joined := s.resume right
          let clock := if ending = .stuck then right.clock else max base.clock right.clock
          settle fuel { joined with clock := clock }
    | .subshell inner => settle fuel (s.resume (finish fuel (run fuel inner s.apart)))
    | .background inner =>
      let number := s.number + 1 + s.jobs.length
      let done := finish fuel (run fuel inner (s.starting number))
      let holds := (s.sinksOf inner).filterMap fun
        | (_, .log n) => some n
        | _ => none
      s.launched done number holds
    | .redirected line inner redirections =>
      match redirectAll fuel redirections { s with line := line } with
      | .error s => settle fuel s
      | .ok start =>
        let done := run fuel inner start
        { done with
          sinks := s.sinks
          input := if redirections.any (·.isInput) then s.input else done.input }
    | .choice test yes no =>
      let s := guarded fuel test s
      if s.status = 0 then run fuel yes s else run fuel no (s.withStatus 0)
    | .loop until_ test body =>
      let (done, _) := iterate (fun (s, last) =>
        let t := guarded fuel test s
        if !t.isRunning then
          let (t, more) := t.turned
          ((t, last), more)
        else if (t.status == 0) != until_ then
          let (t, more) := (run fuel body t).turned
          ((t, t.status), more)
        else ((t.withStatus last, last), false)) patience ({ s with loops := s.loops + 1 }, 0)
      { done with loops := s.loops }
    | .each name list body =>
      let (arguments, t) := expandAll fuel list s
      let (done, _) := arguments.foldl (fun (t, more) a =>
        if !more then (t, false)
        else
          let t := t.assign name a
          (if t.isRunning then run fuel body t else t).turned)
        ({ t.withStatus 0 with loops := s.loops + 1 }, t.isRunning)
      { done with loops := s.loops }
    | .case subject patterns body otherwise =>
      let (parts, s) := values fuel subject s
      let text := (Part.wholeText parts).toList
      let (found, s) := patterns.foldl (fun (found, s) w =>
        if found then (found, s)
        else
          let (parts, s) := values fuel w s
          (matchesPattern (parts.flatMap Part.patternChars) text, s)) (false, s)
      if found then run fuel body (s.withStatus 0) else run fuel otherwise (s.withStatus 0)
    | .define name body =>
      { s with functions := (name, body) :: s.functions.filter (·.1 != name), status := 0 }

/-- Carries out a script whose failure is looked at and does not end the shell. -/
def guarded : Nat → Script → Shell → Shell
  | 0, _, s => s.hung
  | fuel + 1, script, s => { run fuel script { s with tested := true } with tested := s.tested }

/-- What follows a command: the traps for signals that have come, and the end if the command
failed and the shell was told so. -/
def settle : Nat → Shell → Shell
  | 0, s => s.hung
  | fuel + 1, s =>
    if s.pending.isEmpty || s.outer.isSome || !s.isRunning then s.checked
    else
      let done := s.pending.foldl (fun t signal =>
        let t := interpret fuel 1 ((t.traps.lookup signal).getD "") t
        if t.isRunning then t.withStatus s.status else t) { s with pending := [] }
      done.checked

/-- What a shell does at its end. -/
def finish : Nat → Shell → Shell
  | 0, s => s.hung
  | fuel + 1, s =>
    match s.ending, s.traps.lookup 0 with
    | .killed _, _ | .stuck, _ | _, none => s
    | _, some action =>
      let ready := { s with ending := .running, traps := s.traps.filter (·.1 != 0) }
      let done := interpret fuel 1 action ready
      if done.isRunning then (done.withStatus s.status).closed else done

/-- The arguments that words become. -/
def expandAll : Nat → List Word → Shell → List String × Shell
  | 0, _, s => ([], s.hung)
  | fuel + 1, words, s =>
    words.foldl (fun (all, s) w =>
      let (parts, s) := values fuel w s
      (all ++ Part.fields s.separators parts, s)) (([] : List String), s)

/-- The values of a word's pieces. -/
def values : Nat → Word → Shell → List Part × Shell
  | 0, _, s => ([], s.hung)
  | fuel + 1, w, s =>
    w.foldl (fun (parts, s) piece =>
      if !s.isRunning then (parts, s) else
      match piece with
      | .text t quoted => (parts ++ [.text t quoted], s)
      | .meaningless => (parts, s.giveUp "Bad substitution" 2)
      | .variable name quoted =>
        if s.insists name then (parts, s.giveUp (unsetMessage name false) 2)
        else (parts ++ [s.variablePart name quoted], s)
      | .length name quoted =>
        if s.insists name then (parts, s.giveUp (unsetMessage name false) 2)
        else
          let n := if name = "@" || name = "*" then s.arguments.length else (s.value name).length
          (parts ++ [.value (toString n) quoted], s)
      | .changed name change operand quoted =>
        let (more, s) := changed fuel name change operand quoted s
        (parts ++ more, s)
      | .sum text quoted =>
        let (inside, s) := values fuel (Token.quotedPieces text) s
        let expression := Part.wholeText inside
        match Arithmetic.evaluate s.value expression with
        | .ok (n, given) =>
          let s := given.reverse.foldl (fun s (name, n) => s.assign name (toString n)) s
          (parts ++ [.value (toString n) quoted], s)
        | .error fault =>
          (parts, if s.isRunning then s.giveUp (fault.message expression) 2 else s)
      | .output text quoted =>
        let (start, number) := s.capture
        let inner := finish fuel (interpret fuel s.line text start)
        (parts ++ [.value (inner.outputText number) quoted], s.substituted inner number))
      (([] : List Part), s)

/-- The parts that a changed variable becomes. -/
def changed : Nat → String → Change → String → Bool → Shell → List Part × Shell
  | 0, _, _, _, _, s => ([], s.hung)
  | fuel + 1, name, change, operand, quoted, s =>
    let isThere (emptyToo : Bool) : Bool :=
      (s.value? name).any fun v => !(emptyToo && v.isEmpty)
    let own := [s.variablePart name quoted]
    let instead : List Part × Shell :=
      let (parts, s) := values fuel (Token.operandPieces quoted operand) s
      (if parts.isEmpty && quoted then [.value "" true]
        else if quoted then parts else parts.map Part.inOperand, s)
    match change with
    | .fallback emptyToo => if isThere emptyToo then (own, s) else instead
    | .replace emptyToo =>
      if isThere emptyToo then instead else (if quoted then [.value "" true] else [], s)
    | .provide emptyToo =>
      if isThere emptyToo then (own, s)
      else if !Token.isName name.toList then ([], s.giveUp (name ++ ": bad variable name") 2)
      else
        let (parts, s) := instead
        let text := Part.wholeText parts
        ([.value text quoted], s.assign name text)
    | .require emptyToo =>
      if isThere emptyToo then (own, s)
      else
        let (parts, s) := instead
        let message := if operand.isEmpty then unsetMessage name emptyToo
          else name ++ ": " ++ Part.wholeText parts
        ([], s.giveUp message 2)
    | .trimFront longest | .trimBack longest =>
      if s.insists name then ([], s.giveUp (unsetMessage name false) 2)
      else
        let (parts, t) := values fuel (Token.operandPieces false operand) s
        let pattern := parts.flatMap Part.patternChars
        let cs := (s.value name).toList
        let kept := match change with
          | .trimFront _ => trimFront longest pattern cs
          | _ => trimBack longest pattern cs
        ([.value (String.ofList kept) quoted], t)

/-- The shell with redirections, or with a complaint about one. -/
def redirectAll : Nat → List Redirection → Shell → Except Shell Shell
  | 0, _, s => .error s.hung
  | fuel + 1, redirections, s =>
    redirections.foldlM (fun s r =>
      let (parts, s) := values fuel r.word s
      if s.isRunning then s.redirect r (Part.wholeText parts) else .error s) s

/-- Reads a text as a script from a line on and carries it out. -/
def interpret : Nat → Nat → String → Shell → Shell
  | 0, _, _, s => s.hung
  | fuel + 1, line, text, s => carryOut fuel (Token.ofText line text) s

/-- Carries out the lines that tokens spell. -/
def carryOut : Nat → Tokens → Shell → Shell
  | 0, _, s => s.hung
  | fuel + 1, ts, s =>
    if !s.isRunning then s
    else match Script.next? ts with
      | .ok none => s
      | .ok (some (script, rest)) => carryOut fuel rest (run fuel script s)
      | .error m => { s with line := m.line }.giveUp (s.within ++ m.fault.message) 2

/-- Carries out a command whose words are known. -/
def call : Nat → List String → Shell → Shell
  | 0, _, s => s.hung
  | _, [], s => s
  | fuel + 1, name :: arguments, s =>
    match (if specials.contains name then none else s.functions.lookup name) with
    | some body =>
      returned s (run fuel body { s with arguments := arguments, loops := 0, locals := some [] })
    | none =>
      match s.builtin? (name :: arguments), name, arguments with
      | some after, _, _ => after
      | none, "exec", target :: rest =>
        match s.host.find target with
        | .ok program =>
          let heir := s.successor target rest
          let done := s.resume (launch fuel program target rest heir)
          let done := { done with traps := [] }
          if done.isRunning then done.closed else done
        | .error f =>
          let cause := if f = .notFound then "not found" else f.wording
          (s.grumble "exec" (target ++ ": " ++ cause) (if f = .notFound then 127 else 126)).closed
      | none, "eval", words =>
        let s := if words.isEmpty then s.withStatus 0 else s
        let done := interpret fuel 1 (" ".intercalate words) { s with within := "eval: " }
        { done with within := s.within }
      | none, ".", path :: _ =>
        match s.openFile path with
        | .ok text =>
          let done := interpret fuel 1 (Text.Utf8.decodeLossy text.front) (s.withStatus 0)
          if done.ending = .returning then { done with ending := .running } else done
        | .error f =>
          let cause := if f = .notFound then "No such file" else f.wording
          (s.grumble "." ("cannot open " ++ path ++ ": " ++ cause) 2).closed
      | none, "command", "-v" :: names => s.describe false names
      | none, "command", "-V" :: names => s.describe true names
      | none, "command", words =>
        let done := call fuel words { s with functions := [], status := 0 }
        { done with functions := s.functions }
      | none, _, _ =>
        match s.host.find name with
        | .ok program =>
          let child := { s.successor name arguments with number := s.number + 500 }
          s.reap (launch fuel program name arguments child)
        | .error .notFound | .error .nameTooLong =>
          s.complain (s.within ++ name ++ ": not found") 127
        | .error f => s.complain (s.within ++ name ++ ": " ++ f.wording) 126

/-- Runs a program to its end. -/
def launch : Nat → Program → String → List String → Shell → Shell
  | 0, _, _, _, s => s.hung
  | _, .tool tool, name, arguments, s =>
    match Tools.all.lookup tool with
    | some f => s.after name name (f (s.view arguments))
    | none => s
  | fuel + 1, .script text, name, arguments, s =>
    finish fuel (interpret fuel 1 text { s with name := name, arguments := arguments })
  | fuel + 1, .shell, name, arguments, s =>
    let (options, errand) := Errand.ofArguments name s.input [] arguments
    let s := { s with name := name, options := options }
    match errand with
    | .script name rest text =>
      finish fuel (interpret fuel 1 text { s with name := name, arguments := rest })
    | .file path rest =>
      let text? := match s.host.scripts.lookup path with
        | some text => some text
        | none => (s.openFile path).toOption.map fun t => Text.Utf8.decodeLossy t.front
      match text? with
      | some text => finish fuel (interpret fuel 1 text { s with name := path, arguments := rest })
      | none => { s with line := 0 }.complain ("cannot open " ++ path ++ ": No such file") 2
    | .nothing => { s with line := 0 }.complain "-c requires an argument" 2
  | fuel + 1, .launcher launcher, name, arguments, s =>
    match Aid.ofArguments launcher arguments with
    | .refuse e => s.after name name e
    | .find names => s.locateAll names
    | .copies names => s.copyTo names
    | .start assignments words =>
      startFor fuel name words (assignments.foldl (fun s (n, v) =>
        { s.assign n v with exported := n :: s.exported }) s)
    | .gathered words => startFor fuel name (words ++ s.inputWords) s
    | .limited milliseconds words =>
      let done := startFor fuel name words s
      if milliseconds != 0 && (done.ending = .stuck || s.clock + milliseconds < done.clock) then
        s.timedOut done milliseconds
      else done

/-- Runs a program for another one. -/
def startFor : Nat → String → List String → Shell → Shell
  | 0, _, _, s => s.hung
  | _, _, [], s => s
  | fuel + 1, speaker, target :: rest, s =>
    match s.host.find target with
    | .ok program => launch fuel program target rest s
    | .error f =>
      let action := if ["timeout", "xargs"].contains speaker then "failed to run command " else ""
      s.after speaker speaker (.complain (action ++ inMarks target ++ ": " ++ f.wording)
        (if f = .notFound then 127 else 126))

end

/-- How deep commands may nest. -/
def depth : Nat := 4000

end LayerPress.Host.Shell
