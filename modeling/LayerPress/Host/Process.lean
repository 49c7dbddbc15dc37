import LayerPress.Host.Execution
import LayerPress.Services

/-!
# Running a program

A program is started with its arguments and no input, and has until its timeout to end. What it
wrote is read leniently as text; a program that a signal ended has no exit code.
-/

namespace LayerPress.Host

/-- A text the system does not take as a name or an argument. -/
def holdsNul (s : String) : Bool := s.contains '\x00'

/-- The fault of a name or an argument with a NUL in it. -/
def nulFault : Fault := .other "nul byte found in provided data"

/-- What a shell that has come to its end leaves. -/
def Shell.output (s : Shell) : ProcessOutput where
  exitCode := match s.ending with
    | .killed _ => none
    | _ => some (s.status % 256)
  stdout := Text.Utf8.decodeLossy (s.bytesWritten 1)
  stderr := Text.Utf8.decodeLossy (s.bytesWritten 2)

/-- When so many milliseconds have passed the shell has not ended, or something it started may
still write. -/
def Shell.overruns (s : Shell) (milliseconds : Nat) : Bool :=
  s.ending == .stuck || !(s.quietFrom [1, 2]).any fun time => time < milliseconds

/-- Runs a program of the host. -/
def Installation.run (i : Installation) (program : String) (arguments : List String)
    (timeoutMilliseconds : Nat) : Except Failure ProcessOutput :=
  if holdsNul program || arguments.any holdsNul then .error (.io nulFault)
  else match i.find program with
    | .error f => .error (.io f)
    | .ok p =>
      let s := Shell.launch Shell.depth p program arguments (Shell.fresh i program arguments)
      if s.overruns timeoutMilliseconds then .error (.importTimeout timeoutMilliseconds)
      else .ok s.output

end LayerPress.Host
