import LayerPress.Disk.Fault
import LayerPress.Host.Stream

/-!
# What tools see and do

What a tool sees when it starts, and what it has done when it ends. A tool that needs the end of
its input is stuck on an endless one.
-/

namespace LayerPress.Host

/-- What a tool sees: its arguments, its input, and the files by name. -/
structure View where
  arguments : List String
  input : Stream
  openFile : String → Except Fault Stream
  isFolder : String → Bool
  isDevice : String → Bool

/-- What a tool has done when it ends, its complaints, and the milliseconds it took. A hint tells
how to ask the tool for help. -/
structure Effect where
  status : Nat := 0
  out : Stream := .empty
  notes : List String := []
  hint : Bool := false
  time : Nat := 0
  stuck : Bool := false

namespace Effect

/-- A complaint and a status. -/
def complain (text : String) (status : Nat) : Effect :=
  { status := status, notes := [text] }

/-- A complaint about how a tool was called. -/
def misuse (text : String) (status : Nat) : Effect :=
  { complain text status with hint := true }

/-- Bytes as output. -/
def writes (bytes : List UInt8) : Effect :=
  { out := .ofBytes bytes }

/-- The complaints as lines of a speaker. -/
def complaints (e : Effect) (speaker tool : String) : String :=
  String.join (e.notes.map fun note => speaker ++ ": " ++ note ++ "\n") ++
    if e.hint then "Try '" ++ tool ++ " --help' for more information.\n" else ""

end Effect

/-- A text in quotation marks. -/
def inMarks (s : String) : String := "‘" ++ s ++ "’"

namespace View

/-- The input made of files, or the standard one without files. A file that cannot be read is
complained about. -/
def gather (v : View) (complaint : String → Fault → String) (files : List String) :
    Stream × Effect :=
  if files.isEmpty then (v.input, {})
  else files.foldl (fun (all, e) name =>
    if name = "-" then (all ++ v.input, e)
    else match v.openFile name with
      | .ok stream => (all ++ stream, e)
      | .error f => (all, { e with status := 1, notes := e.notes ++ [complaint name f] }))
    (Stream.empty, {})

/-- The usual complaint about a file. -/
def unreadable (name : String) (f : Fault) : String := name ++ ": " ++ f.wording

end View

end LayerPress.Host
