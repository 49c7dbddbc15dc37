import LayerPress.Archive.Basic

/-!
# Folder trees

The contents of a folder are a list of named files and folders. A position in the tree is the
list of names that leads to it. Looking up, setting and erasing go down one name at a time.
-/

namespace LayerPress

/-- What a file holds: plain bytes, or an archive. -/
inductive Content where
  | bytes (data : List UInt8)
  | archive (entries : List ArchiveEntry)
  deriving DecidableEq, Repr, Inhabited

/-- The contents of a folder. -/
inductive Listing where
  | empty
  | file (name : FileName) (content : Content) (rest : Listing)
  | folder (name : FileName) (inside : Listing) (rest : Listing)
  deriving DecidableEq, Repr, Inhabited

/-- A place in a tree from its root down. -/
abbrev Position := List FileName

/-- What stands at a position. -/
inductive Entry where
  | file (content : Content)
  | folder (inside : Listing)
  deriving DecidableEq, Repr

namespace Listing

/-- The entry of a name. -/
def find? : Listing → FileName → Option Entry
  | empty, _ => none
  | file n c rest, name => if n = name then some (.file c) else rest.find? name
  | folder n inside rest, name => if n = name then some (.folder inside) else rest.find? name

/-- One more entry in front. -/
def cons (name : FileName) : Entry → Listing → Listing
  | .file c, rest => file name c rest
  | .folder inside, rest => folder name inside rest

/-- The listing with an entry under a name, in place of any it had. -/
def put : Listing → FileName → Entry → Listing
  | empty, name, e => cons name e empty
  | file n c rest, name, e => if n = name then cons name e rest else file n c (rest.put name e)
  | folder n inside rest, name, e =>
    if n = name then cons name e rest else folder n inside (rest.put name e)

/-- The listing without the entries of a name. -/
def remove : Listing → FileName → Listing
  | empty, _ => empty
  | file n c rest, name => if n = name then rest.remove name else file n c (rest.remove name)
  | folder n inside rest, name =>
    if n = name then rest.remove name else folder n inside (rest.remove name)

/-- The names in a folder, in the order of the listing. -/
def names : Listing → List FileName
  | empty => []
  | file n _ rest => n :: rest.names
  | folder n _ rest => n :: rest.names

/-- What stands at a position. -/
def get? : Listing → Position → Option Entry
  | l, [] => some (.folder l)
  | l, name :: rest =>
    match l.find? name with
    | some (.folder inside) => inside.get? rest
    | some (.file c) => if rest.isEmpty then some (.file c) else none
    | none => none

/-- The tree with an entry at a position whose folder exists; without that folder it is the
same. -/
def set : Listing → Position → Entry → Listing
  | _, [], .folder inside => inside
  | l, [], .file _ => l
  | l, [name], e => l.put name e
  | l, name :: next :: rest, e =>
    match l.find? name with
    | some (.folder inside) => l.put name (.folder (inside.set (next :: rest) e))
    | _ => l

/-- The tree without what stands at a position. -/
def erase : Listing → Position → Listing
  | _, [] => empty
  | l, [name] => l.remove name
  | l, name :: next :: rest =>
    match l.find? name with
    | some (.folder inside) => l.put name (.folder (inside.erase (next :: rest)))
    | _ => l

/-- Every file and folder of a tree with its path below some bytes; a folder has no content. -/
def contents (above : List UInt8) : Listing → List (List UInt8 × Option Content)
  | empty => []
  | file n c rest => (above ++ n, some c) :: rest.contents above
  | folder n inside rest =>
    (above ++ n, none) :: (inside.contents (above ++ n ++ [Path.slash]) ++ rest.contents above)

/-- The number of entries in a folder. -/
def size (l : Listing) : Nat :=
  l.names.length

end Listing

end LayerPress
