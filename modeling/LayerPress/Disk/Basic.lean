import LayerPress.Disk.Fault
import LayerPress.Disk.Listing

/-!
# The file system

A disk is a tree of folders with a working folder, where relative paths start. Paths are
followed one component at a time: every component but the last must lead to a folder, a name
has at most 255 bytes and a path less than 4096. An operation that fails changes nothing;
creating a chain of folders keeps what it made before it failed.
-/

namespace LayerPress

/-- A file system. -/
structure Disk where
  root : Listing
  working : Position
  deriving DecidableEq, Repr, Inhabited

namespace Disk

/-- The longest name. -/
def maxName : Nat := 255

/-- The first length at which a path is refused. -/
def maxPath : Nat := 4096

/-- A position must hold a folder for a path to go on from it. -/
def enter (d : Disk) (pos : Position) : Except Fault Unit :=
  match d.root.get? pos with
  | some (.folder _) => .ok ()
  | some (.file _) => .error .notADirectory
  | none => .error .notFound

/-- One component of a path, from a position. -/
def step (d : Disk) (pos : Position) (c : Path.Component) : Except Fault Position := do
  d.enter pos
  match c with
  | .here => return pos
  | .up => return pos.dropLast
  | .name n => if maxName < n.length then throw .nameTooLong else return pos ++ [n]

/-- Every component of a path, from a position. -/
def walk (d : Disk) (start : Position) (cs : List Path.Component) : Except Fault Position :=
  cs.foldlM d.step start

/-- Where a path starts. -/
def start (d : Disk) (p : Path) : Position :=
  if p.isAbsolute then [] else d.working

/-- A path the system accepts at all. -/
def check (p : Path) : Except Fault Unit :=
  if p.bytes.contains 0 then .error .nulInPath
  else if p.bytes.isEmpty then .error .notFound
  else if maxPath ≤ p.bytes.length then .error .nameTooLong
  else .ok ()

/-- The path asks for a folder by ending in a slash. -/
def asksFolder (p : Path) : Bool :=
  p.bytes.getLast? == some Path.slash

/-- The position a path leads to and what stands there. -/
def locate (d : Disk) (p : Path) : Except Fault (Position × Entry) := do
  check p
  let pos ← d.walk (d.start p) (p.steps ++ if asksFolder p then [.here] else [])
  match d.root.get? pos with
  | some e => return (pos, e)
  | none => throw .notFound

/-- A path leads to a regular file. -/
def isFile (d : Disk) (p : Path) : Bool :=
  match d.locate p with
  | .ok (_, .file _) => true
  | _ => false

/-- A path leads to a folder. -/
def isFolder (d : Disk) (p : Path) : Bool :=
  match d.locate p with
  | .ok (_, .folder _) => true
  | _ => false

/-- The folder a path names its last component in, and that component; the root has none. -/
def before (d : Disk) (p : Path) : Except Fault (Position × Option Path.Component) := do
  check p
  let pos ← d.walk (d.start p) p.steps.dropLast
  d.enter pos
  return (pos, p.steps.getLast?)

/-- The disk with a new folder. -/
def makeFolder (d : Disk) (p : Path) : Except Fault Disk := do
  match ← d.before p with
  | (pos, some (.name n)) =>
    if maxName < n.length then throw .nameTooLong
    match d.root.get? (pos ++ [n]) with
    | some _ => throw .exists
    | none => return { d with root := d.root.set (pos ++ [n]) (.folder .empty) }
  | _ => throw .exists

/-- The disk with a file of the given content, in place of the file that was there. -/
def writeFile (d : Disk) (p : Path) (content : Content) : Except Fault Disk := do
  match ← d.before p with
  | (pos, some (.name n)) =>
    if asksFolder p then throw .isADirectory
    if maxName < n.length then throw .nameTooLong
    match d.root.get? (pos ++ [n]) with
    | some (.folder _) => throw .isADirectory
    | _ => return { d with root := d.root.set (pos ++ [n]) (.file content) }
  | _ => throw .isADirectory

/-- The disk without a file. -/
def removeFile (d : Disk) (p : Path) : Except Fault Disk := do
  match ← d.locate p with
  | (pos, .file _) => return { d with root := d.root.erase pos }
  | (_, .folder _) => throw .isADirectory

/-- A folder that could not be made is no matter if it is there already. -/
def makeOrKeep (d : Disk) (p : Path) : Except Fault Unit × Disk :=
  match d.makeFolder p with
  | .ok after => (.ok (), after)
  | .error f => if d.isFolder p then (.ok (), d) else (.error f, d)

/-- Makes a folder and the missing ones above it. The first argument bounds the number of
folders above; a path has fewer than its length. -/
def makeFoldersWithin : Nat → Disk → Path → Except Fault Unit × Disk
  | 0, d, _ => (.error (.other "failed to create whole tree"), d)
  | fuel + 1, d, p =>
    if p.bytes.isEmpty then (.ok (), d)
    else match d.makeFolder p with
      | .error .notFound =>
        match p.parent? with
        | none => (.error (.other "failed to create whole tree"), d)
        | some above =>
          match makeFoldersWithin fuel d above with
          | (.ok (), made) => made.makeOrKeep p
          | (.error f, made) => (.error f, made)
      | _ => d.makeOrKeep p

/-- Makes a folder and the missing ones above it. -/
def makeFolders (d : Disk) (p : Path) : Except Fault Unit × Disk :=
  makeFoldersWithin (p.bytes.length + 1) d p

end Disk

end LayerPress
