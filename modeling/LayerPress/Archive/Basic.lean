import LayerPress.Disk.Fault
import LayerPress.Disk.Path

/-!
# Zip archives

An archive is its list of entries in order, each with what reading its content gives. Entries of
equal names are one entry, at the place of the first with the data of the last. A name is accepted
when it holds no NUL, is not absolute, and its double dots never outnumber the names before them; an
accepted name is used as written.
-/

namespace LayerPress

/-- Why an archive could not be read. -/
inductive ArchiveFault where
  | invalid (text : String)
  | unsupported (text : String)
  | entryNotFound
  | wrongPassword
  | unreadable
  deriving DecidableEq, Repr

/-- The wording of the cause. -/
def ArchiveFault.message : ArchiveFault → String
  | .invalid text => s!"invalid Zip archive: {text}"
  | .unsupported text => s!"unsupported Zip archive: {text}"
  | .entryNotFound => "specified file not found in archive"
  | .wrongPassword => "provided password is incorrect"
  | .unreadable => "i/o error"

/-- The file is no archive, or is cut short. -/
def ArchiveFault.noDirectory : ArchiveFault :=
  .invalid "Could not find EOCD"

/-- One entry of an archive. Its data are the content as it is read, out of the compression it is
under, up to the end or to where a broken stream breaks off. The checksum holds if the content is
read to the end and is the recorded one; where it does not hold, reading ends with the flaw. -/
structure ArchiveEntry where
  name : String
  data : List UInt8
  checksumHolds : Bool
  encrypted : Bool
  method : Nat
  /-- What is wrong with the header before the content. -/
  headerFault? : Option ArchiveFault := none
  flaw : Fault := .badChecksum
  deriving DecidableEq, Repr, Inhabited

namespace ArchiveEntry

/-- The compression methods that are read: none, deflate, deflate64, bzip2, LZMA, Zstandard, XZ. -/
def readableMethods : List Nat := [0, 8, 9, 12, 14, 93, 95]

/-- A name that ends in a slash or a backslash is that of a folder. -/
def isFolder (e : ArchiveEntry) : Bool :=
  match e.name.toList.getLast? with
  | some c => c == '/' || c == '\\'
  | none => false

/-- Why the content of an entry cannot be read at all: it is encrypted, its header is broken, or its
compression is not one that is read. A broken content is none of these. -/
def fault? (e : ArchiveEntry) : Option ArchiveFault :=
  if e.encrypted then some (.unsupported "Password required to decrypt file")
  else e.headerFault?.or <|
    if readableMethods.contains e.method then none
    else some (.unsupported "Compression method not supported")

/-- The depth after the components of a name, if it never falls below zero. -/
def depthAfter? : Nat → List Path.Component → Option Nat
  | depth, [] => some depth
  | depth, .here :: rest => depthAfter? depth rest
  | depth, .name _ :: rest => depthAfter? (depth + 1) rest
  | 0, .up :: _ => none
  | depth + 1, .up :: rest => depthAfter? depth rest

/-- A name that cannot lead out of the folder it is joined to. -/
def accepts (name : String) : Bool :=
  !name.toList.contains (Char.ofNat 0) && !(Path.ofText name).isAbsolute &&
    (depthAfter? 0 (Path.ofText name).steps).isSome

/-- The bytes an archive of stored entries takes: a header and a directory record for each
entry, and the end record. -/
def storedSize (entries : List ArchiveEntry) : Nat :=
  entries.foldl (fun size e => size + 30 + 46 + 2 * e.name.utf8ByteSize + e.data.length) 22

end ArchiveEntry

/-- Entries with those of equal names merged. -/
def mergeEntries (entries : List ArchiveEntry) : List ArchiveEntry :=
  entries.foldl (fun merged e =>
    if merged.any (·.name == e.name) then merged.map fun m => if m.name == e.name then e else m
    else merged ++ [e]) []

end LayerPress
