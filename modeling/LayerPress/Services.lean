import LayerPress.Failure
import LayerPress.Json.Basic

/-!
# Outside services

The calls made to the three systems outside: the conversion program, the spatial database and
the map catalog. A call is data, so a run's calls can be listed; each call has a type of value,
and any call may fail instead.
-/

namespace LayerPress

/-- The extent of a table's geometries. -/
structure BoundingBox where
  west : Double
  south : Double
  east : Double
  north : Double
  deriving DecidableEq, Repr

/-- A column of a table that is neither its key nor its geometry. -/
structure Column where
  name : String
  dataType : String
  deriving DecidableEq, Repr

/-- What a finished program left; a program ended by a signal has no exit code. -/
structure ProcessOutput where
  exitCode : Option Int
  stdout : String
  stderr : String
  deriving DecidableEq, Repr

/-- The program ended with code zero. -/
def ProcessOutput.success (o : ProcessOutput) : Bool :=
  o.exitCode == some 0

/-- How a table got into the catalog. -/
inductive PublishAction where
  | created
  | updated
  deriving DecidableEq, Repr

/-- A call to an outside system. -/
inductive ServiceCall where
  | run (program : String) (args : List String) (timeoutMilliseconds : Nat)
  | count (table : String)
  | geometryType (table : String)
  | extent (table : String)
  | columns (table : String)
  | drop (table : String)
  | publish (table title workspace store : String)
  | unpublish (name workspace store : String)
  | info (name workspace : String)
  deriving DecidableEq, Repr

/-- The value of a call that succeeds. -/
abbrev ServiceCall.Value : ServiceCall → Type
  | run .. => ProcessOutput
  | count _ => Int
  | geometryType _ => Option String
  | extent _ => Option BoundingBox
  | columns _ => List Column
  | drop _ => Unit
  | publish .. => PublishAction
  | unpublish .. => Unit
  | info .. => Option Json

instance ServiceCall.decidableEqValue : (c : ServiceCall) → DecidableEq c.Value
  | .run .. => inferInstanceAs (DecidableEq ProcessOutput)
  | .count _ => inferInstanceAs (DecidableEq Int)
  | .geometryType _ => inferInstanceAs (DecidableEq (Option String))
  | .extent _ => inferInstanceAs (DecidableEq (Option BoundingBox))
  | .columns _ => inferInstanceAs (DecidableEq (List Column))
  | .drop _ | .unpublish .. => inferInstanceAs (DecidableEq Unit)
  | .publish .. => inferInstanceAs (DecidableEq PublishAction)
  | .info .. => inferInstanceAs (DecidableEq (Option Json))

end LayerPress
