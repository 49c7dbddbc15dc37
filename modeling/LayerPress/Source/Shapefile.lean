import LayerPress.Disk.Listing
import LayerPress.Source.Format

/-!
# The shapefile of a folder

Of the shapefiles in a folder tree the loader takes the first: a file of a folder stands before
everything in its subfolders, and among files or among subfolders the smaller name stands first,
byte by byte. Resource forks and names that are not text are passed over.
-/

namespace LayerPress.Listing

/-- Names the search looks at: text, no resource fork, not the resource folder. -/
def isVisible (name : FileName) : Bool :=
  (Text.Utf8.decode? name).isSome && name.take 2 != Text.Utf8.encode "._" &&
    name != Text.Utf8.encode "__MACOSX"

/-- The name of a shapefile. -/
def isShapefileName (name : FileName) : Bool :=
  match Path.extensionOf name with
  | some ext => ext.map asciiLower == Text.Utf8.encode "shp"
  | none => false

/-- The candidate of the smaller name. -/
def smaller (a : FileName × Position) : Option (FileName × Position) → FileName × Position
  | none => a
  | some b => if b.1 < a.1 then b else a

/-- The first shapefile directly in a folder, and the first in one of its subfolders, each by
the name that decides and the position that follows it. -/
def candidates : Listing → Option (FileName × Position) × Option (FileName × Position)
  | empty => (none, none)
  | file name _ rest =>
    let (direct, deep) := rest.candidates
    if isVisible name && isShapefileName name then (some (smaller (name, []) direct), deep)
    else (direct, deep)
  | folder name inside rest =>
    let (direct, deep) := rest.candidates
    if isVisible name then
      match inside.candidates with
      | (some (n, pos), _) => (direct, some (smaller (name, n :: pos) deep))
      | (none, some (n, pos)) => (direct, some (smaller (name, n :: pos) deep))
      | (none, none) => (direct, deep)
    else (direct, deep)

/-- The position of the first shapefile in a tree. -/
def shapefile? (l : Listing) : Option Position :=
  match l.candidates with
  | (some (n, pos), _) => some (n :: pos)
  | (none, some (n, pos)) => some (n :: pos)
  | (none, none) => none

end LayerPress.Listing
