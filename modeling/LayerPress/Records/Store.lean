import LayerPress.Records.Layer

/-!
# The record store

Layers and attributes in two tables. Ids are unique in each table, slugs among layers, and field
names within a layer; an attribute belongs to a stored layer and goes with it. A statement reads
or changes the tables, or is refused and changes nothing. A stored number is never a NaN and
never a negative zero: the first is stored as nothing, the second as zero.
-/

namespace LayerPress

/-- The two tables, rows in order of insertion. -/
structure Records where
  layers : List Layer
  attributes : List Attribute
  deriving DecidableEq, Repr, Inhabited

/-- What storing a number keeps of it. -/
def Double.stored (d : Double) : Option Double :=
  if d.isNaN then none
  else if d.isZero then some .zero
  else some d

/-- A change to some fields of a layer. -/
inductive LayerChange where
  | loaded (table : String) (features : Int) (kind : Naming.GeometryKind)
      (extent : Option BoundingBox) (now : Timestamp)
  | published (entry : String) (now : Timestamp)
  | cleared (now : Timestamp)
  deriving DecidableEq, Repr

/-- The layer after a change. -/
def LayerChange.apply : LayerChange → Layer → Layer
  | loaded table features kind extent now, l =>
    { l with
      tableName := some table
      featureCount := features
      geometryKind := kind.text
      west := extent.bind (·.west.stored)
      south := extent.bind (·.south.stored)
      east := extent.bind (·.east.stored)
      north := extent.bind (·.north.stored)
      updatedAt := now }
  | published entry now, l => { l with catalogEntry := some entry, updatedAt := now }
  | cleared now, l =>
    { l with
      tableName := none
      catalogEntry := none
      featureCount := 0
      west := none
      south := none
      east := none
      north := none
      updatedAt := now }

/-- A statement on the tables. -/
inductive Statement where
  | findLayer (id : Uuid)
  | listLayers
  | insertLayer (row : Layer)
  | changeLayer (id : Uuid) (change : LayerChange)
  | deleteLayer (id : Uuid)
  | findAttribute (layer : Uuid) (field : String)
  | listAttributes (layer : Uuid)
  | insertAttribute (row : Attribute)
  | showAttribute (id : Uuid) (displayName : String) (sortOrder : Int)
  | deleteAttributes (layer : Uuid)
  deriving DecidableEq, Repr

/-- What a statement answers. -/
abbrev Statement.Value : Statement → Type
  | findLayer _ => Option Layer
  | listLayers => List Layer
  | insertLayer _ => Layer
  | changeLayer .. => Layer
  | deleteLayer _ => Unit
  | findAttribute .. => Option Attribute
  | listAttributes _ => List Attribute
  | insertAttribute _ => Unit
  | showAttribute .. => Unit
  | deleteAttributes _ => Unit

instance Statement.decidableEqValue : (s : Statement) → DecidableEq s.Value
  | .findLayer _ => inferInstanceAs (DecidableEq (Option Layer))
  | .listLayers => inferInstanceAs (DecidableEq (List Layer))
  | .insertLayer _ | .changeLayer .. => inferInstanceAs (DecidableEq Layer)
  | .findAttribute .. => inferInstanceAs (DecidableEq (Option Attribute))
  | .listAttributes _ => inferInstanceAs (DecidableEq (List Attribute))
  | .deleteLayer _ | .insertAttribute _ | .showAttribute .. | .deleteAttributes _ =>
    inferInstanceAs (DecidableEq Unit)

/-- The statement may change the tables. -/
def Statement.isWrite : Statement → Bool
  | findLayer _ | listLayers | findAttribute .. | listAttributes _ => false
  | _ => true

namespace Records

/-- No rows. -/
def empty : Records := ⟨[], []⟩

/-- The layer of an id. -/
def layer? (r : Records) (id : Uuid) : Option Layer :=
  r.layers.find? (·.id == id)

/-- The attribute of a layer's field. -/
def attribute? (r : Records) (layer : Uuid) (field : String) : Option Attribute :=
  r.attributes.find? fun a => a.layer == layer && a.field == field

/-- Layers in the order of their titles. -/
def byTitle (r : Records) : List Layer :=
  r.layers.mergeSort fun a b => !(b.title < a.title : Bool)

/-- The attributes of a layer in their display order. -/
def attributesOf (r : Records) (layer : Uuid) : List Attribute :=
  (r.attributes.filter (·.layer == layer)).mergeSort fun a b => a.sortOrder ≤ b.sortOrder

/-- A layer as it is stored. -/
def stored (l : Layer) : Layer :=
  { l with
    west := l.west.bind Double.stored
    south := l.south.bind Double.stored
    east := l.east.bind Double.stored
    north := l.north.bind Double.stored }

/-- The tables with one more layer. -/
def insertLayer (r : Records) (l : Layer) : Except RecordFault Records :=
  if r.layers.any (·.id == l.id) then .error (.duplicateKey "portal_layer.id")
  else if r.layers.any (·.slug == l.slug) then .error (.duplicateKey "portal_layer.slug")
  else .ok { r with layers := r.layers ++ [stored l] }

/-- The tables with a layer changed. -/
def changeLayer (r : Records) (id : Uuid) (change : LayerChange) :
    Except RecordFault (Layer × Records) :=
  match r.layer? id with
  | none => .error .rowGone
  | some l =>
    .ok (change.apply l,
      { r with layers := r.layers.map fun row => if row.id == id then change.apply row else row })

/-- The tables without a layer and its attributes. -/
def deleteLayer (r : Records) (id : Uuid) : Records :=
  ⟨r.layers.filter (·.id != id), r.attributes.filter (·.layer != id)⟩

/-- The tables with one more attribute. -/
def insertAttribute (r : Records) (a : Attribute) : Except RecordFault Records :=
  if r.attributes.any (·.id == a.id) then .error (.duplicateKey "portal_layer_attribute.id")
  else if (r.attribute? a.layer a.field).isSome then
    .error (.duplicateKey "portal_layer_attribute.layer_id, portal_layer_attribute.field_name")
  else if (r.layer? a.layer).isNone then .error .missingParent
  else .ok { r with attributes := r.attributes ++ [a] }

/-- The tables with an attribute shown under a name at a place. -/
def showAttribute (r : Records) (id : Uuid) (displayName : String) (sortOrder : Int) :
    Except RecordFault Records :=
  if r.attributes.any (·.id == id) then
    .ok { r with attributes := r.attributes.map fun a =>
      if a.id == id then
        { a with displayName := displayName, showInPopup := true, sortOrder := sortOrder }
      else a }
  else .error .rowGone

/-- The tables without the attributes of a layer. -/
def deleteAttributes (r : Records) (layer : Uuid) : Records :=
  { r with attributes := r.attributes.filter (·.layer != layer) }

/-- A statement's value with the tables after it. -/
def execute (r : Records) : (s : Statement) → Except RecordFault (s.Value × Records)
  | .findLayer id => .ok (r.layer? id, r)
  | .listLayers => .ok (r.byTitle, r)
  | .insertLayer l => (r.insertLayer l).map (stored l, ·)
  | .changeLayer id change => r.changeLayer id change
  | .deleteLayer id => .ok ((), r.deleteLayer id)
  | .findAttribute layer field => .ok (r.attribute? layer field, r)
  | .listAttributes layer => .ok (r.attributesOf layer, r)
  | .insertAttribute a => (r.insertAttribute a).map ((), ·)
  | .showAttribute id displayName sortOrder =>
    (r.showAttribute id displayName sortOrder).map ((), ·)
  | .deleteAttributes layer => .ok ((), r.deleteAttributes layer)

end Records

end LayerPress
