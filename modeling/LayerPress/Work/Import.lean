import LayerPress.Outcome
import LayerPress.Uuid.Named
import LayerPress.Work.Load

/-!
# Importing a layer

An attempt finds the layer and its source file, loads the table, measures it, and in one
transaction updates the layer and its attributes; only then is the table published. A layer that
cannot be imported is refused before its record is touched, and a table that cannot be published
stays loaded. An import repeats failed attempts that may be worth it and always ends with an
outcome.
-/

namespace LayerPress

/-- What imports and teardowns are told beforehand. -/
structure ImportSettings where
  mediaRoot : Path
  workspace : String
  datastore : String
  maxRetries : Nat
  retryBackoffSeconds : Nat
  spatial : SpatialSettings
  loader : LoaderSettings
  deriving DecidableEq, Repr

/-- The settings an import takes from those of the program. -/
def Settings.importSettings (s : Settings) : ImportSettings where
  mediaRoot := Path.ofText s.mediaRoot
  workspace := s.catalog.workspace
  datastore := s.catalog.datastore
  maxRetries := s.maxRetries
  retryBackoffSeconds := s.retryBackoffSeconds
  spatial := s.spatial
  loader := s.loader

/-- The namespace of attribute ids. -/
def attributeSpace : Uuid :=
  Uuid.ofNat 0x3f6c1d829a4b5e0791c25d3ae87014bb

/-- The id of a layer's attribute, made from the layer and the field. -/
def attributeId (layer : Uuid) (field : String) : Uuid :=
  Uuid.named attributeSpace (layer.text ++ ":" ++ field)

namespace Work

/-- The path of a layer's source file, which must be a regular file. -/
def sourcePath (settings : ImportSettings) (layer : Layer) : Attempt Path := do
  match layer.sourceFile with
  | none => throw (.sourceFileMissing ("layer '" ++ layer.slug ++ "' has no source file"))
  | some raw =>
    if raw.isEmpty then
      throw (.sourceFileMissing ("layer '" ++ layer.slug ++ "' has no source file"))
    let path := settings.mediaRoot.join (Path.ofText raw)
    if ← liftM (m := Work) (isFile path) then return path
    else throw (.sourceFileMissing path.display)

/-- Shows one column, under its old attribute or a new one. -/
def upsertAttribute (layer : Uuid) (column : Column) (place : Nat) : Attempt Unit := do
  match ← execute (.findAttribute layer column.name) with
  | some a =>
    execute (.showAttribute a.id (Naming.displayLabel column.name) (Attribute.orderAt place))
  | none =>
    execute (.insertAttribute {
      id := attributeId layer column.name
      layer := layer
      field := column.name
      displayName := Naming.displayLabel column.name
      showInPopup := true
      sortOrder := Attribute.orderAt place })

/-- Shows the columns of a layer in order, the first at the given place. Attributes of other
fields stay as they are. -/
def upsertAttributes (layer : Uuid) : Nat → List Column → Attempt Unit
  | _, [] => return ()
  | place, column :: rest => do
    upsertAttribute layer column place
    upsertAttributes layer (place + 1) rest

/-- Updates the layer and its attributes with what was loaded. -/
def recordLoad (id : Uuid) (table : String) (features : Int) (kind : Naming.GeometryKind)
    (extent : Option BoundingBox) (columns : List Column) : Attempt Layer :=
  inTransaction do
    let moment ← liftM (m := Work) now
    let layer ← execute (.changeLayer id (.loaded table features kind extent moment))
    liftM (m := Work) (note .creatingAttributes)
    upsertAttributes layer.id 0 columns
    return layer

/-- Publishes a loaded table and records its entry; a table that the catalog refuses has none. -/
def publish (settings : ImportSettings) (layer : Layer) (table : String) :
    Attempt (Option String) := do
  match ← liftM (m := Work)
      (call (.publish table layer.title settings.workspace settings.datastore)) with
  | .ok _ =>
    let entry := settings.workspace ++ ":" ++ table
    let moment ← liftM (m := Work) now
    let _ ← execute (.changeLayer layer.id (.published entry moment))
    return some entry
  | .error _ => return none

/-- One attempt to import a layer. -/
def importLayer (settings : ImportSettings) (id : Uuid) : Attempt ImportOutcome := do
  match ← execute (.findLayer id) with
  | none => throw (.layerNotFound id)
  | some layer =>
    let path ← sourcePath settings layer
    let table := Naming.tableName layer.slug
    liftM (m := Work) (note .resolving)
    let source ← resolve path
    liftM (m := Work) (note .loading)
    let result ← liftM (m := Work) (load settings.spatial settings.loader source.path table)
    liftM (m := Work) (release source)
    match result with
    | .failed f => throw f
    | .loaded features type =>
      liftM (m := Work) (note .extracting)
      let extent ← liftM (m := Work) (tableExtent table)
      let columns ← liftM (m := Work) (tableColumns table)
      let kind := Naming.GeometryKind.ofType type
      liftM (m := Work) (note .updatingRecord)
      let updated ← recordLoad id table features kind extent columns
      liftM (m := Work) (note .publishing)
      let entry ← publish settings updated table
      liftM (m := Work) (note .done)
      return .loaded table features kind entry

/-- Imports a layer, with repetitions; a failure is an outcome too. -/
def runImport (settings : ImportSettings) (id : Uuid) : Work ImportOutcome := do
  note .queued
  match ← retrying (importLayer settings id) settings.maxRetries 0 with
  | .ok outcome => return outcome
  | .error f => return .failed f.message

end Work

end LayerPress
