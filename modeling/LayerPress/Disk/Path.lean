import LayerPress.Text.Utf8

/-!
# Paths

A path is a list of bytes. Between slashes stand its components: empty ones and single dots
count for nothing except a dot that opens a relative path, two dots name the folder above.
Joining, the folder of a path, its last name and its extension are read off the components.
-/

namespace LayerPress

/-- The name of a file or folder, which need not be text. -/
abbrev FileName := List UInt8

/-- A path as it is written. -/
structure Path where
  bytes : List UInt8
  deriving DecidableEq, Repr, Inhabited

namespace Path

/-- The slash between components. -/
def slash : UInt8 := 0x2f

/-- The full stop. -/
def dot : UInt8 := 0x2e

/-- The path spelled by a text. -/
def ofText (s : String) : Path := ⟨Text.Utf8.encode s⟩

/-- The path as text, damaged parts replaced. -/
def display (p : Path) : String := Text.Utf8.decodeLossy p.bytes

/-- An absolute path starts with a slash. -/
def isAbsolute (p : Path) : Bool := p.bytes.head? == some slash

/-- A path under a base: an absolute path stands for itself. -/
def join (base p : Path) : Path :=
  if p.isAbsolute then p
  else if base.bytes.isEmpty || base.bytes.getLast? == some slash then ⟨base.bytes ++ p.bytes⟩
  else ⟨base.bytes ++ slash :: p.bytes⟩

/-- The pieces between slashes, always at least one. -/
def pieces : List UInt8 → List (List UInt8)
  | [] => [[]]
  | b :: rest =>
    if b == slash then [] :: pieces rest
    else match pieces rest with
      | piece :: more => (b :: piece) :: more
      | [] => [[b]]

/-- One component of a path. -/
inductive Component where
  | here
  | up
  | name (n : FileName)
  deriving DecidableEq, Repr

/-- The component a piece spells; the empty piece spells none. -/
def component? (piece : List UInt8) : Option Component :=
  if piece.isEmpty then none
  else if piece = [dot] then some .here
  else if piece = [dot, dot] then some .up
  else some (.name piece)

/-- Every component as written, dots included. -/
def steps (p : Path) : List Component :=
  (pieces p.bytes).filterMap component?

/-- The components that count: a dot only where it opens a relative path. -/
def components (p : Path) : List Component :=
  match p.steps with
  | .here :: rest =>
    if p.isAbsolute then rest.filter (· != .here) else .here :: rest.filter (· != .here)
  | steps => steps.filter (· != .here)

/-- The last name, unless the path ends in two dots or has no name. -/
def fileName? (p : Path) : Option FileName :=
  match p.components.getLast? with
  | some (.name n) => some n
  | _ => none

/-- What follows the last dot of a name that does not start with it. -/
def extensionOf (n : FileName) : Option (List UInt8) :=
  if n.contains dot then
    let after := (n.reverse.takeWhile (· != dot)).reverse
    if after.length + 1 = n.length then none else some after
  else none

/-- The extension of the last name. -/
def extension? (p : Path) : Option (List UInt8) :=
  p.fileName?.bind extensionOf

/-- The pieces without the empty ones and single dots at the end. -/
def trimEnd : List (List UInt8) → List (List UInt8)
  | [] => []
  | piece :: more =>
    match trimEnd more with
    | [] => if piece.isEmpty || piece == [dot] then [] else [piece]
    | more => piece :: more

/-- The pieces joined by slashes. -/
def unpieces : List (List UInt8) → List UInt8
  | [] => []
  | [piece] => piece
  | piece :: more => piece ++ slash :: unpieces more

/-- The path without its last component; a path without components has no parent. -/
def parent? (p : Path) : Option Path :=
  let root := if p.isAbsolute then [slash] else []
  match (trimEnd (pieces (p.bytes.drop root.length))).reverse with
  | [] => none
  | _ :: before => some ⟨root ++ unpieces (trimEnd before.reverse)⟩

end Path

end LayerPress
