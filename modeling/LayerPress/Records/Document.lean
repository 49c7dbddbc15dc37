import LayerPress.Records.Layer

/-!
# Documents of layer records

How layers and attributes are shown to clients. An edge of an extent that is no finite number is
shown as null.
-/

namespace LayerPress

/-- The document of an extent. -/
def BoundingBox.document (b : BoundingBox) : Json :=
  .object [("west", .double b.west), ("south", .double b.south), ("east", .double b.east),
    ("north", .double b.north)]

/-- The fields that every document of a layer has. -/
def Layer.documentFields (l : Layer) : List (String × Json) := [
  ("id", .string l.id.text),
  ("title", .string l.title),
  ("slug", .string l.slug),
  ("layer_kind", .string l.layerKind),
  ("geom_kind", .string l.geometryKind),
  ("source_file", Json.ofText? l.sourceFile),
  ("catalog_entry", Json.ofText? l.catalogEntry),
  ("table_name", Json.ofText? l.tableName),
  ("feature_count", .integer l.featureCount),
  ("bbox", Json.ofOption BoundingBox.document l.extent?),
  ("is_published", .bool l.isPublished),
  ("import_status", .string l.importStatus.text),
  ("created_at", .string l.createdAt.text),
  ("updated_at", .string l.updatedAt.text)]

/-- The document of a layer in a list. -/
def Layer.document (l : Layer) : Json :=
  .object l.documentFields

/-- The document of an attribute. -/
def Attribute.document (a : Attribute) : Json :=
  .object [
    ("field_name", .string a.field),
    ("display_name", .string a.displayName),
    ("show_in_popup", .bool a.showInPopup),
    ("sort_order", .integer a.sortOrder)]

/-- The document of one layer with its attributes. -/
def Layer.detailDocument (l : Layer) (attributes : List Attribute) : Json :=
  .object (l.documentFields ++ [("attributes", .array (attributes.map Attribute.document))])

end LayerPress
