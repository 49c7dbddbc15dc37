import LayerPress.Disk.Basic
import LayerPress.Failure

/-!
# Extracting an archive

Entries are written below a target folder in archive order. An entry whose content cannot be read
at all stops the extraction before it touches the disk; an entry with a refused name is passed over;
a wrong checksum or a broken stream is noticed when what could be read of the content has been
written.
-/

namespace LayerPress.Disk

/-- Writes one entry below the target. -/
def extractEntry (d : Disk) (target : Path) (e : ArchiveEntry) : Except Failure Unit × Disk :=
  match e.fault? with
  | some fault => (.error (.archive fault), d)
  | none =>
    if !ArchiveEntry.accepts e.name then (.ok (), d)
    else
      let out := target.join (Path.ofText e.name)
      if e.isFolder then
        match d.makeFolders out with
        | (.ok (), made) => (.ok (), made)
        | (.error f, made) => (.error (.io f), made)
      else
        match d.makeFolders (out.parent?.getD ⟨[]⟩) with
        | (.error f, made) => (.error (.io f), made)
        | (.ok (), made) =>
          match made.writeFile out (.bytes e.data) with
          | .error f => (.error (.io f), made)
          | .ok written =>
            if e.checksumHolds then (.ok (), written) else (.error (.io e.flaw), written)

/-- Writes the entries below the target, up to the first that fails. -/
def extractEntries (d : Disk) (target : Path) : List ArchiveEntry → Except Failure Unit × Disk
  | [] => (.ok (), d)
  | e :: rest =>
    match d.extractEntry target e with
    | (.ok (), after) => after.extractEntries target rest
    | (.error f, after) => (.error f, after)

/-- The entries of the archive a path leads to. -/
def openArchive (d : Disk) (p : Path) : Except Failure (List ArchiveEntry) :=
  match d.locate p with
  | .error f => .error (.io f)
  | .ok (_, .folder _) => .error (.archive .unreadable)
  | .ok (_, .file (.bytes _)) => .error (.archive .noDirectory)
  | .ok (_, .file (.archive entries)) => .ok (mergeEntries entries)

/-- Opens an archive and writes its entries below the target. -/
def extractArchive (d : Disk) (archive target : Path) : Except Failure Unit × Disk :=
  match d.openArchive archive with
  | .error f => (.error f, d)
  | .ok entries => d.extractEntries target entries

end LayerPress.Disk
