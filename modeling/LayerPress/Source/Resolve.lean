import LayerPress.Archive.Extraction
import LayerPress.Source.Shapefile

/-!
# Source files ready for loading

A plain vector file is loaded where it is. An archive is extracted into a fresh folder below the
scratch root, and its first shapefile is loaded from there; the fresh folder is removed when the
source is no longer needed, and at once when resolving fails.
-/

namespace LayerPress

/-- A source file the loader can read, with the folder to discard afterwards. -/
structure ResolvedSource where
  format : SourceFormat
  path : Path
  scratch : Option Path
  deriving DecidableEq, Repr

namespace Disk

/-- What the names of extraction folders start with. -/
def scratchStem : FileName := Text.Utf8.encode "layer-import-"

/-- The extraction folder of a number. -/
def scratchName (n : Nat) : FileName :=
  scratchStem ++ Text.Utf8.encode (Nat.repr n)

/-- The name of the first number that a folder does not use yet; as many numbers as there are
names, and one more, are enough to find one. -/
def freshName (l : Listing) : FileName :=
  let unused := (List.range (l.size + 1)).find? fun n => !l.names.contains (scratchName n)
  scratchName (unused.getD 0)

/-- Makes a fresh folder below the scratch root. -/
def makeScratch (d : Disk) (root : Path) : Except Fault (Path × Disk) := do
  match ← d.locate root with
  | (_, .file _) => throw .notADirectory
  | (_, .folder inside) =>
    let p := root.join ⟨freshName inside⟩
    return (p, ← d.makeFolder p)

/-- The disk without the folder a path leads to. -/
def discard (d : Disk) (p : Path) : Disk :=
  match d.locate p with
  | .ok (pos, .folder _) => { d with root := d.root.erase pos }
  | _ => d

/-- The first shapefile below a folder, as a path. The search is for folders that extraction has
filled. There every path is at most as long as one by which something was made, so it is one that
the system takes, and only the folder itself is looked up. -/
def findShapefile (d : Disk) (folder : Path) : Except Failure Path :=
  match d.locate folder with
  | .ok (_, .folder inside) =>
    match inside.shapefile? with
    | some pos => .ok (pos.foldl (fun p name => p.join ⟨name⟩) folder)
    | none => .error .noShapefile
  | .ok (_, .file _) => .error (.io .notADirectory)
  | .error f => .error (.io f)

/-- The extension as it is named in a refusal. -/
def refusedExtension (p : Path) : String :=
  match p.extension? with
  | some ext => "." ++ Text.Utf8.decodeLossy ext
  | none => ""

/-- Resolves a source file, with the disk after it. -/
def resolve (d : Disk) (scratchRoot : Path) (p : Path) : Except Failure ResolvedSource × Disk :=
  let format := SourceFormat.ofPath p
  if !format.isVector then (.error (.unsupportedFormat (refusedExtension p)), d)
  else if format ≠ .shapefileArchive then (.ok ⟨format, p, none⟩, d)
  else match d.makeScratch scratchRoot with
    | .error f => (.error (.io f), d)
    | .ok (target, made) =>
      match made.extractArchive p target with
      | (.error f, after) => (.error f, after.discard target)
      | (.ok (), after) =>
        match after.findShapefile target with
        | .error f => (.error f, after.discard target)
        | .ok shapefile => (.ok ⟨format, shapefile, some target⟩, after)

/-- The disk once a source is no longer needed. -/
def release (d : Disk) (r : ResolvedSource) : Disk :=
  match r.scratch with
  | some folder => d.discard folder
  | none => d

end Disk

end LayerPress
