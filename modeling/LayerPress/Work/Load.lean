import LayerPress.Settings.Basic
import LayerPress.Work.Attempt

/-!
# Loading a source into a table

A conversion program writes the source into a table of the spatial database, replacing any table
of that name; then the features are counted and one geometry is sampled. Loading never fails by
itself: its result is either the loaded table or the failure. A program that could not run or
ended badly is a failed conversion.
-/

namespace LayerPress

/-- The geometry column of a loaded table. -/
def geometryColumn : String := "geom"

/-- The key column of a loaded table. -/
def keyColumn : String := "gid"

/-- What loading a table gave. -/
inductive LoadResult where
  | loaded (features : Int) (geometryType : String)
  | failed (failure : Failure)
  deriving DecidableEq, Repr

namespace LoadResult

/-- The table was loaded. -/
def success : LoadResult → Bool
  | loaded .. => true
  | failed _ => false

/-- The message of a result. -/
def message : LoadResult → String
  | loaded features _ => s!"Successfully imported {features} features"
  | failed f => f.message

/-- The features counted. -/
def featureCount : LoadResult → Int
  | loaded features _ => features
  | failed _ => 0

/-- The sampled geometry type. -/
def geometryType? : LoadResult → Option String
  | loaded _ type => some type
  | failed _ => none

/-- The failure of a result. -/
def failure? : LoadResult → Option Failure
  | loaded .. => none
  | failed f => some f

end LoadResult

/-- What a table without geometries is sampled as. -/
def unknownGeometry : String := "UNKNOWN"

namespace Work

/-- The conversion program's arguments. -/
def conversionArgs (spatial : SpatialSettings) (loader : LoaderSettings) (source : Path)
    (table : String) : List String :=
  ["-f", "PostgreSQL", spatial.dataSource, source.display,
    "-nln", table,
    "-nlt", "PROMOTE_TO_MULTI",
    "-t_srs", "EPSG:" ++ toString loader.targetSrid,
    "-lco", "GEOMETRY_NAME=" ++ geometryColumn,
    "-lco", "FID=" ++ keyColumn,
    "-lco", "PRECISION=NO",
    "-lco", "SCHEMA=" ++ spatial.schema,
    "-overwrite",
    "--config", "PG_USE_COPY", "YES"]

/-- The exit code of a program in a diagnostic. -/
def exitText : Option Int → String
  | some code => s!"Some({code})"
  | none => "None"

/-- What went wrong with a program that did not end well: its own words, or its exit code when
it said nothing. -/
def diagnostic (o : ProcessOutput) : String :=
  let said := Text.trim o.stderr
  if said.isEmpty then "exited with status " ++ exitText o.exitCode else said

/-- The failure of a program that could not be run to its end. -/
def runFailure (program : String) : Failure → Failure
  | .io fault => .conversionFailed s!"could not run {program}: {fault.message}"
  | f => f

/-- The features and the sampled geometry type of a table. -/
def measure (table : String) : Work LoadResult := do
  match ← call (.count table) with
  | .error f => return .failed f
  | .ok features =>
    match ← call (.geometryType table) with
    | .error f => return .failed f
    | .ok type => return .loaded features (type.getD unknownGeometry)

/-- Converts a source into a table and measures the table. -/
def load (spatial : SpatialSettings) (loader : LoaderSettings) (source : Path) (table : String) :
    Work LoadResult := do
  let args := conversionArgs spatial loader source table
  match ← call (.run loader.program args loader.timeoutMilliseconds) with
  | .error f => return .failed (runFailure loader.program f)
  | .ok output =>
    if output.success then measure table
    else return .failed (.conversionFailed (diagnostic output))

/-- The extent of a table; without an answer there is none. -/
def tableExtent (table : String) : Work (Option BoundingBox) := do
  match ← call (.extent table) with
  | .ok extent => return extent
  | .error _ => return none

/-- The columns of a table; without an answer there are none. -/
def tableColumns (table : String) : Work (List Column) := do
  match ← call (.columns table) with
  | .ok columns => return columns
  | .error _ => return []

end Work

end LayerPress
