import LayerPress.Archive.Basic
import LayerPress.Disk.Fault
import LayerPress.Uuid.Basic

/-!
# Failures of imports and teardowns

Everything that can go wrong while a layer is loaded, published or torn down, by cause. Only
faults of the record store and of input and output are worth another attempt; bad input, a
failed conversion and a timeout would fail the same way again.
-/

namespace LayerPress

/-- A fault of the database that holds the layer records. -/
inductive RecordFault where
  | scripted (text : String)
  | duplicateKey (key : String)
  | missingParent
  | rowGone
  | unavailable
  deriving DecidableEq, Repr

/-- The wording of a record fault. -/
def RecordFault.message : RecordFault → String
  | .scripted text => s!"Custom Error: {text}"
  | .duplicateKey key => s!"Execution Error: UNIQUE constraint failed: {key}"
  | .missingParent => "Execution Error: FOREIGN KEY constraint failed"
  | .rowGone => "None of the records are updated"
  | .unavailable => "Connection Error: the record store does not answer"

/-- Why an import or teardown failed. -/
inductive Failure where
  | unsupportedFormat (extension : String)
  | noShapefile
  | archive (fault : ArchiveFault)
  | conversionFailed (diagnostic : String)
  | importTimeout (milliseconds : Nat)
  | catalogUnreachable (text : String)
  | catalogRequestFailed (status : Nat) (body : String)
  | layerNotFound (id : Uuid)
  | sourceFileMissing (text : String)
  | metadataQueryFailed (text : String)
  | spatialDatabase (text : String)
  | records (fault : RecordFault)
  | io (fault : Fault)
  deriving DecidableEq, Repr

namespace Failure

/-- The text shown for a failure. -/
def message : Failure → String
  | unsupportedFormat extension => s!"Unsupported file format: {extension}"
  | noShapefile => "No .shp file found in archive"
  | archive fault => s!"Archive could not be read: {fault.message}"
  | conversionFailed diagnostic => s!"ogr2ogr error: {diagnostic}"
  | importTimeout milliseconds => s!"Import timed out (>{milliseconds / 1000} seconds)"
  | catalogUnreachable text => s!"Catalog service unreachable: {text}"
  | catalogRequestFailed status body => s!"Catalog request failed ({status}): {body}"
  | layerNotFound id => s!"Layer {id.text} not found"
  | sourceFileMissing text => s!"Source file missing: {text}"
  | metadataQueryFailed text => s!"Metadata query failed: {text}"
  | spatialDatabase text => s!"Spatial database error: {text}"
  | records fault => s!"Database error: {fault.message}"
  | io fault => s!"I/O error: {fault.message}"

/-- Whether another attempt may succeed. -/
def isRetryable : Failure → Bool
  | records _ | io _ => true
  | _ => false

end Failure

/-- Two actions in a row end well exactly if each does. -/
theorem bind_eq_ok {ε α β : Type} {x : Except ε α} {f : α → Except ε β} {b : β} :
    (x >>= f) = .ok b ↔ ∃ a, x = .ok a ∧ f a = .ok b := by
  cases x with
  | error e => simp [bind, Except.bind]
  | ok a => simp [bind, Except.bind]

end LayerPress
