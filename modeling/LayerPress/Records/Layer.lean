import LayerPress.Naming
import LayerPress.Services
import LayerPress.Timestamp

/-!
# Layer records

A layer is declared with a slug, a title and a source file; importing it fills in the table, the
catalog entry and what was measured. An attribute describes one column of a layer's table. How
far a layer has come is read off the names that are filled in.
-/

namespace LayerPress

/-- The record of a layer. The edges of its extent are kept one by one. -/
structure Layer where
  id : Uuid
  title : String
  slug : String
  layerKind : String
  geometryKind : String
  sourceFile : Option String
  catalogEntry : Option String
  tableName : Option String
  featureCount : Int
  west : Option Double
  south : Option Double
  east : Option Double
  north : Option Double
  isPublished : Bool
  createdAt : Timestamp
  updatedAt : Timestamp
  deriving DecidableEq, Repr, Inhabited

/-- The record of a column. -/
structure Attribute where
  id : Uuid
  layer : Uuid
  field : String
  displayName : String
  showInPopup : Bool
  sortOrder : Int
  deriving DecidableEq, Repr, Inhabited

/-- The order of the column at a place. Orders are numbers of thirty-two bits with a sign, so that
places too large for them come back from the lowest. -/
def Attribute.orderAt (place : Nat) : Int :=
  (Int32.ofNat place).toInt

/-- How far a layer has come. -/
inductive ImportStatus where
  | imported
  | loaded
  | pending
  | noFile
  deriving DecidableEq, Repr

/-- The name of a status. -/
def ImportStatus.text : ImportStatus → String
  | imported => "imported"
  | loaded => "loaded"
  | pending => "pending"
  | noFile => "no_file"

/-- A name is given and not empty. -/
def hasText (s : Option String) : Bool :=
  s.any (!·.isEmpty)

namespace Layer

/-- A newly declared layer, with nothing imported. -/
def declared (id : Uuid) (title slug layerKind geometryKind : String)
    (sourceFile : Option String) (now : Timestamp) : Layer where
  id := id
  title := title
  slug := slug
  layerKind := layerKind
  geometryKind := geometryKind
  sourceFile := sourceFile
  catalogEntry := none
  tableName := none
  featureCount := 0
  west := none
  south := none
  east := none
  north := none
  isPublished := false
  createdAt := now
  updatedAt := now

/-- The extent, when all four edges are known. -/
def extent? (l : Layer) : Option BoundingBox := do
  return ⟨← l.west, ← l.south, ← l.east, ← l.north⟩

/-- A table with an entry is imported and one without is loaded; without a table the source file
decides. -/
def importStatus (l : Layer) : ImportStatus :=
  if hasText l.tableName then
    if hasText l.catalogEntry then .imported else .loaded
  else if hasText l.sourceFile then .pending
  else .noFile

/-- The layer has something in the spatial database or in the catalog. -/
def hasImports (l : Layer) : Bool :=
  hasText l.tableName || hasText l.catalogEntry

end Layer

end LayerPress
