import LayerPress.Host.Builtin

/-!
# Starting programs

What a program is asked to do by its arguments when it runs a script or starts another program.
-/

namespace LayerPress.Host

/-- What a shell started with arguments has to do: its name, its arguments and its script, which
may be in a file. -/
inductive Errand where
  | script (name : String) (arguments : List String) (text : String)
  | file (name : String) (arguments : List String)
  | nothing
  deriving DecidableEq, Repr

/-- The options and the errand that a shell's arguments spell. -/
def Errand.ofArguments (name : String) (input : Stream) :
    List Char → List String → List Char × Errand
  | options, [] => (options, .script name [] (Text.Utf8.decodeLossy input.front))
  | options, a :: rest =>
    let letters := a.toList.drop 1
    if a.startsWith "-" && !letters.isEmpty then
      if letters.contains 'c' then
        let options := letters.filter (· != 'c') ++ options
        match rest with
        | text :: name :: arguments => (options, .script name arguments text)
        | [text] => (options, .script name [] text)
        | [] => (options, .nothing)
      else ofArguments name input (letters ++ options) rest
    else (options, .file a rest)

/-- What a program that starts another has to do, or one that asks the shell for more than its
input. -/
inductive Aid where
  | start (assignments : List (String × String)) (words : List String)
  | limited (milliseconds : Nat) (words : List String)
  | gathered (words : List String)
  | find (names : List String)
  | copies (names : List String)
  | refuse (e : Effect)

namespace Aid

/-- The assignments at the front of a list of words, after options. -/
def environment : List String → List (String × String) × List String
  | "-i" :: rest | "-" :: rest => environment rest
  | "-u" :: _ :: rest => environment rest
  | a :: rest =>
    match Text.splitFirst '=' a.toList with
    | some (name, value) =>
      let (more, words) := environment rest
      ((String.ofList name, String.ofList value) :: more, words)
    | none => ([], a :: rest)
  | [] => ([], [])

/-- What a launcher is asked to do. -/
def ofArguments (launcher : String) (arguments : List String) : Aid :=
  match launcher, arguments with
  | "env", _ =>
    let (assignments, words) := environment arguments
    .start assignments words
  | "nice", "-n" :: _ :: words => .start [] words
  | "timeout", [] => .refuse { status := 125, hint := true }
  | "timeout", limit :: words =>
    match Tools.milliseconds? limit with
    | some n => .limited n words
    | none => .refuse (.misuse ("invalid time interval " ++ inMarks limit) 125)
  | "xargs", [] => .gathered ["echo"]
  | "xargs", words => .gathered words
  | "which", names => .find names
  | "tee", names => .copies (names.filter (· != "-a"))
  | _, words => .start [] words

end Aid

namespace Shell

/-- The shell as a program's time limit leaves it when that has passed. -/
def timedOut (s done : Shell) (milliseconds : Nat) : Shell :=
  let limit := s.clock + milliseconds
  { s.resume done with
    clock := limit
    status := 124
    log := done.log.filter fun e => e.time ≤ limit
    ending := .running }

/-- The shell that copies its input to its output and to files. -/
def copyTo (s : Shell) (names : List String) : Shell :=
  names.foldl (fun s name =>
    match s.redirect (.write 3 false []) name with
    | .ok t => { t.write 3 s.input with sinks := s.sinks }
    | .error t => { t with log := s.log, status := 1 })
    (s.write 1 s.input)

/-- The words of the input. -/
def inputWords (s : Shell) : List String :=
  Part.fields [' ', '\t', '\n'] [.value (Text.Utf8.decodeLossy s.input.front) false]

/-- The shell that writes where programs are. -/
def locateAll (s : Shell) (names : List String) : Shell :=
  names.foldl (fun s name =>
    match s.host.find name with
    | .ok _ => s.say 1 ((if name.contains '/' then name else "/usr/bin/" ++ name) ++ "\n")
    | .error _ => s.withStatus 1) (s.withStatus 0)

end Shell

end LayerPress.Host
