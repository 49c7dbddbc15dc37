import LayerPress.Json.Basic
import LayerPress.Naming

/-!
# Outcomes

What an import or a teardown reports when it has ended. An import either failed with a message
or loaded a table, which the catalog may or may not show. A teardown has two steps, each absent
when there was nothing to do.
-/

namespace LayerPress

/-- How an import ended. -/
inductive ImportOutcome where
  | failed (message : String)
  | loaded (table : String) (features : Int) (kind : Naming.GeometryKind) (entry : Option String)
  deriving DecidableEq, Repr

namespace ImportOutcome

/-- The table was loaded. -/
def success : ImportOutcome → Bool
  | failed _ => false
  | loaded .. => true

/-- The message of an outcome. -/
def message : ImportOutcome → String
  | failed text => text
  | loaded _ features _ _ => s!"Imported {features} features"

/-- The features counted in the table. -/
def featureCount : ImportOutcome → Int
  | failed _ => 0
  | loaded _ features _ _ => features

/-- The kind of the sampled geometry. -/
def geometryKind? : ImportOutcome → Option String
  | failed _ => none
  | loaded _ _ kind _ => some kind.text

/-- The table that was loaded. -/
def tableName? : ImportOutcome → Option String
  | failed _ => none
  | loaded table _ _ _ => some table

/-- The catalog entry that was published. -/
def catalogEntry? : ImportOutcome → Option String
  | failed _ => none
  | loaded _ _ _ entry => entry

/-- The catalog shows the table; a loaded table without this is there and unpublished. -/
def isPublished (o : ImportOutcome) : Bool :=
  o.catalogEntry?.isSome

/-- The document of an outcome. -/
def document (o : ImportOutcome) : Json :=
  .object [
    ("success", .bool o.success),
    ("message", .string o.message),
    ("feature_count", .integer o.featureCount),
    ("geom_type", Json.ofText? o.geometryKind?),
    ("geoserver", .bool o.isPublished),
    ("catalog_entry", Json.ofText? o.catalogEntry?),
    ("table_name", Json.ofText? o.tableName?)]

end ImportOutcome

/-- How one step of a teardown ended. -/
structure StepOutcome where
  success : Bool
  message : String
  deriving DecidableEq, Repr

/-- The document of a step. -/
def StepOutcome.document (o : StepOutcome) : Json :=
  .object [("success", .bool o.success), ("message", .string o.message)]

/-- How a teardown ended; a step that was not attempted is absent. -/
structure TeardownOutcome where
  catalog : Option StepOutcome
  table : Option StepOutcome
  deriving DecidableEq, Repr

namespace TeardownOutcome

/-- The attempted steps in order: catalog, table. -/
def steps (o : TeardownOutcome) : List StepOutcome :=
  o.catalog.toList ++ o.table.toList

/-- Every attempted step succeeded. -/
def success (o : TeardownOutcome) : Bool :=
  o.steps.all (·.success)

/-- The messages of the failed steps in one line. -/
def failureText (o : TeardownOutcome) : String :=
  Text.joinWith "; " ((o.steps.filter (!·.success)).map (·.message))

/-- The document of an outcome. -/
def document (o : TeardownOutcome) : Json :=
  .object [
    ("catalog", Json.ofOption StepOutcome.document o.catalog),
    ("table", Json.ofOption StepOutcome.document o.table)]

end TeardownOutcome

end LayerPress
