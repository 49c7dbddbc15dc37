import LayerPress.Disk.Basic
import LayerPress.Records.Store
import LayerPress.Text.Percent

/-!
# Where records are kept

An address names a database file, which may be created if it says so, or the memory of one run.
A file is opened only in a folder that exists, and only if it is a database already or may become
one.
-/

namespace LayerPress

/-- A place for records. -/
inductive RecordPlace where
  | memory
  | file (path : Path) (creates : Bool)
  deriving DecidableEq, Repr

namespace RecordPlace

/-- The text without every repetition of a start. The number bounds the repetitions. -/
def trimStart (start : List Char) : Nat → List Char → List Char
  | 0, cs => cs
  | fuel + 1, cs =>
    if !start.isEmpty && start.isPrefixOf cs then trimStart start fuel (cs.drop start.length)
    else cs

/-- The text without every repetition of a start. -/
def trimAll (start : String) (cs : List Char) : List Char :=
  trimStart start.toList (cs.length + 1) cs

/-- What the parameters of an address say: kept in memory, and created if missing. -/
def readParameters (cs : List Char) : Option (Bool × Bool) :=
  (Text.splitAll '&' cs).foldlM (fun (inMemory, creates) pair =>
    match Text.splitFirst '=' pair with
    | none => if pair.isEmpty then some (inMemory, creates) else none
    | some (key, value) =>
      match String.ofList key, String.ofList value with
      | "mode", "memory" => some (true, creates)
      | "mode", "rwc" => some (inMemory, true)
      | "mode", "ro" | "mode", "rw" => some (inMemory, creates)
      | "cache", "private" | "cache", "shared" => some (inMemory, creates)
      | "immutable", "true" | "immutable", "false" | "immutable", "1" | "immutable", "0" =>
        some (inMemory, creates)
      | "vfs", _ => some (inMemory, creates)
      | _, _ => none) (false, false)

/-- The place an address names. -/
def ofAddress? (address : String) : Option RecordPlace :=
  if !address.startsWith "sqlite:" then none
  else
    let rest := trimAll "//" (trimAll "sqlite:" address.toList)
    let (name, parameters) := (Text.splitFirst '?' rest).getD (rest, [])
    match readParameters parameters, Text.Percent.decodeText? name with
    | some (inMemory, creates), some path =>
      if inMemory || path.isEmpty || path = ":memory:" then some .memory
      else some (.file (Path.ofText path) creates)
    | _, _ => none

end RecordPlace

/-- Database files with their records. -/
abbrev RecordFiles := List (Position × Records)

namespace RecordFiles

/-- The records at a place and, for a file, where they are kept. -/
def openPlace (files : RecordFiles) (disk : Disk) :
    RecordPlace → Option (Records × Option Position)
  | .memory => some (.empty, none)
  | .file path creates =>
    match disk.before path with
    | .ok (folder, some (.name name)) =>
      let position := folder ++ [name]
      match files.lookup position, disk.root.get? position with
      | some r, _ => some (r, some position)
      | none, none => if creates then some (.empty, some position) else none
      | none, some (.file (.bytes [])) => some (.empty, some position)
      | none, some _ => none
    | _ => none

/-- The files with records kept where they were opened. -/
def keep (files : RecordFiles) (position : Option Position) (r : Records) : RecordFiles :=
  match position with
  | some p => (p, r) :: files.filter (·.1 != p)
  | none => files

end RecordFiles

end LayerPress
