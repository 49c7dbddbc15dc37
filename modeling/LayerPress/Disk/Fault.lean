/-!
# Input and output faults

What the operating system, the archive reader or a scripted device may answer instead of doing
what it was asked. System faults carry their number and its wording.
-/

namespace LayerPress

/-- A fault of a file operation or of starting a program. -/
inductive Fault where
  | notFound
  | permissionDenied
  | exists
  | notADirectory
  | isADirectory
  | nameTooLong
  | nulInPath
  | badChecksum
  | other (text : String)
  deriving DecidableEq, Repr

namespace Fault

/-- The system's number of a fault. -/
def number? : Fault → Option Nat
  | .notFound => some 2
  | .permissionDenied => some 13
  | .exists => some 17
  | .notADirectory => some 20
  | .isADirectory => some 21
  | .nameTooLong => some 36
  | .nulInPath | .badChecksum | .other _ => none

/-- The wording without the number. -/
def wording : Fault → String
  | .notFound => "No such file or directory"
  | .permissionDenied => "Permission denied"
  | .exists => "File exists"
  | .notADirectory => "Not a directory"
  | .isADirectory => "Is a directory"
  | .nameTooLong => "File name too long"
  | .nulInPath => "file name contained an unexpected NUL byte"
  | .badChecksum => "Invalid checksum"
  | .other text => text

/-- The full text of a fault. -/
def message (f : Fault) : String :=
  match f.number? with
  | some n => s!"{f.wording} (os error {n})"
  | none => f.wording

end Fault

end LayerPress
