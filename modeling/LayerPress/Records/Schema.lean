import LayerPress.Json.Basic

/-!
# The record store's schema

The tables of the record store come from a fixed list of migrations, one table each. A schema is
a number of migrations applied from the front; moving it up or down applies or reverts migrations
at its end, so a table never stands without the tables it refers to.
-/

namespace LayerPress

/-- A column of a stored table. -/
structure FieldSpec where
  name : String
  required : Bool
  isKey : Bool
  deriving DecidableEq, Repr

/-- A column that refers to the key of another table, and goes when its target goes. -/
structure Reference where
  field : String
  table : String
  target : String
  deriving DecidableEq, Repr

/-- A table of the store. -/
structure TableSpec where
  name : String
  fields : List FieldSpec
  references : List Reference
  unique : List (List String)
  deriving DecidableEq, Repr

/-- A column that holds a value in every row. -/
def FieldSpec.always (name : String) : FieldSpec := ⟨name, true, false⟩

/-- A column that may be empty. -/
def FieldSpec.maybe (name : String) : FieldSpec := ⟨name, false, false⟩

/-- The key of a table. -/
def FieldSpec.key : FieldSpec := ⟨"id", true, true⟩

/-- The table of layers. -/
def layerTable : TableSpec where
  name := "portal_layer"
  fields := [.key, .always "title", .always "slug", .always "layer_kind", .always "geom_kind",
    .maybe "source_file", .maybe "catalog_entry", .maybe "table_name", .always "feature_count",
    .maybe "bbox_west", .maybe "bbox_south", .maybe "bbox_east", .maybe "bbox_north",
    .always "is_published", .always "created_at", .always "updated_at"]
  references := []
  unique := [["slug"]]

/-- The table of attributes. -/
def attributeTable : TableSpec where
  name := "portal_layer_attribute"
  fields := [.key, .always "layer_id", .always "field_name", .always "display_name",
    .always "show_in_popup", .always "sort_order"]
  references := [⟨"layer_id", "portal_layer", "id"⟩]
  unique := [["layer_id", "field_name"]]

/-- The tables that the migrations create, in their order. -/
def migrations : List TableSpec := [layerTable, attributeTable]

/-- The migrations applied so far, counted from the front. -/
structure Schema where
  applied : Nat
  deriving DecidableEq, Repr

/-- A way to move a schema; without a bound all migrations take part. -/
inductive SchemaMove where
  | up (bound : Option Nat)
  | down (bound : Option Nat)
  | fresh
  | refresh
  | reset
  deriving DecidableEq, Repr

namespace Schema

/-- A store without tables. -/
def empty : Schema := ⟨0⟩

/-- Every migration is applied. -/
def complete : Schema := ⟨migrations.length⟩

/-- The tables that stand. -/
def tables (s : Schema) : List TableSpec :=
  migrations.take s.applied

/-- Applies at most so many of the migrations left. -/
def up (s : Schema) (bound : Option Nat) : Schema :=
  ⟨min (s.applied + bound.getD migrations.length) migrations.length⟩

/-- Reverts at most so many of the latest migrations. -/
def down (s : Schema) (bound : Option Nat) : Schema :=
  ⟨s.applied - bound.getD s.applied⟩

/-- The schema after a move. -/
def move (s : Schema) : SchemaMove → Schema
  | .up bound => s.up bound
  | .down bound => s.down bound
  | .fresh => empty.up none
  | .refresh => (s.down none).up none
  | .reset => s.down none

end Schema

namespace Json

/-- A truth value as a digit. -/
def ofFlag (b : Bool) : Json :=
  .integer (if b then 1 else 0)

end Json

/-- The description of a column. -/
def FieldSpec.document (f : FieldSpec) : Json :=
  .object [("name", .string f.name), ("nn", .ofFlag f.required), ("pk", .ofFlag f.isKey)]

/-- The description of a reference. -/
def Reference.document (r : Reference) : Json :=
  .object [("t", .string r.table), ("f", .string r.field), ("o", .string r.target),
    ("d", .string "CASCADE")]

/-- The description of a table. -/
def TableSpec.document (t : TableSpec) : Json :=
  .object [
    ("columns", .array (t.fields.map FieldSpec.document)),
    ("foreign_keys", .array (t.references.map Reference.document)),
    ("unique", .array (t.unique.map fun names => .array (names.map .string)))]

/-- The tables that stand, by name. -/
def Schema.document (s : Schema) : Json :=
  .object (s.tables.map fun t => (t.name, t.document))

end LayerPress
