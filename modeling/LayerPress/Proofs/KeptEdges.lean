import LayerPress.Records.Store
import Mathlib.Data.List.Forall2

/-!
# Edges as they are kept

A record has an extent as four edges, each of which the store keeps as it keeps any number. So an
edge that is not a number is missing, and the record has all edges or none only if no edge of the
extent is a number or all are. An edge that is a number is kept as this number, although a zero
loses its sign.
-/

namespace LayerPress

/-- Two doubles are the same number: they have the same bits, or both are zeros. -/
def Double.SameNumber (c d : Double) : Prop :=
  c = d ∨ c.isZero = true ∧ d.isZero = true

/-- The number with the sign of a zero removed. -/
def Double.unsignedZero (d : Double) : Double :=
  if d.isZero then .zero else d

/-- A number is stored with the sign of a zero removed, and what is not a number is not stored. -/
theorem Double.stored_eq (d : Double) :
    d.stored = if d.isNaN then none else some d.unsignedZero := by
  rw [stored, unsignedZero]
  split
  · rfl
  · split <;> rfl

/-- A double is stored as the number that it is, unless it is not a number. -/
theorem Double.exists_stored_sameNumber_iff (d : Double) :
    (∃ c, d.stored = some c ∧ c.SameNumber d) ↔ d.isNaN = false := by
  rw [stored_eq]
  cases d.isNaN with
  | true => simp
  | false =>
    have hsame : d.unsignedZero.SameNumber d := by
      unfold unsignedZero SameNumber
      split
      · next hzero => exact .inr ⟨rfl, hzero⟩
      · exact .inl rfl
    simpa using hsame

/-- The edges of an extent. -/
def BoundingBox.edges (box : BoundingBox) : List Double :=
  [box.west, box.south, box.east, box.north]

/-- The extent with the signs of zeros removed. -/
def BoundingBox.unsignedZeros (box : BoundingBox) : BoundingBox :=
  ⟨box.west.unsignedZero, box.south.unsignedZero, box.east.unsignedZero, box.north.unsignedZero⟩

/-- Either all edges of the extent are numbers or none is. -/
def BoundingBox.IsUniform (box : BoundingBox) : Prop :=
  (∀ d ∈ box.edges, d.isNaN = false) ∨ ∀ d ∈ box.edges, d.isNaN = true

/-- All edges of the extent are numbers. -/
def BoundingBox.IsNumeric (box : BoundingBox) : Prop :=
  ∀ d ∈ box.edges, d.isNaN = false

/-- What is read of an extent that was stored: nothing if some edge is not a number. -/
def BoundingBox.readBack? (box : BoundingBox) : Option BoundingBox :=
  if box.edges.any Double.isNaN then none else some box.unsignedZeros

/-- The edges in a record. -/
def Layer.edges (l : Layer) : List (Option Double) :=
  [l.west, l.south, l.east, l.north]

/-- The record has all four edges or none. -/
def Layer.IsWhole (l : Layer) : Prop :=
  (∀ e ∈ l.edges, e.isSome = true) ∨ ∀ e ∈ l.edges, e = none

/-- The record has the edges of an extent, each as the number that it is, or no edges if there is no
extent. -/
def Layer.HasExtent (l : Layer) : Option BoundingBox → Prop
  | some box => List.Forall₂ (fun kept d => ∃ c, kept = some c ∧ c.SameNumber d) l.edges box.edges
  | none => ∀ kept ∈ l.edges, kept = none

/-- The record has the edges of an extent as the store keeps them, or no edges. -/
structure Layer.ShowsExtent (l : Layer) (extent : Option BoundingBox) : Prop where
  west : l.west = extent.bind (·.west.stored)
  south : l.south = extent.bind (·.south.stored)
  east : l.east = extent.bind (·.east.stored)
  north : l.north = extent.bind (·.north.stored)

namespace Layer.ShowsExtent

variable {l : Layer} {extent : Option BoundingBox}

/-- The edges of a record. -/
theorem edges (h : l.ShowsExtent extent) :
    l.edges = match extent with
      | some box => box.edges.map Double.stored
      | none => [none, none, none, none] := by
  rw [Layer.edges, h.west, h.south, h.east, h.north]
  cases extent <;> rfl

/-- A record has the extent that it shows unless an edge of that is not a number. -/
theorem hasExtent_iff (h : l.ShowsExtent extent) :
    l.HasExtent extent ↔ ∀ box, extent = some box → box.IsNumeric := by
  cases extent with
  | none => simp [HasExtent, h.edges]
  | some box =>
    simp only [HasExtent, h.edges, List.forall₂_map_left_iff, List.forall₂_same,
      Double.exists_stored_sameNumber_iff, Option.some.injEq, forall_eq', BoundingBox.IsNumeric]

/-- The record has all edges or none unless some edges of the extent are numbers and others are
not. -/
theorem isWhole_iff (h : l.ShowsExtent extent) :
    l.IsWhole ↔ ∀ box, extent = some box → box.IsUniform := by
  rw [Layer.IsWhole, h.edges]
  cases extent with
  | none => simp
  | some box =>
    have hsome (d : Double) : d.stored.isSome = true ↔ d.isNaN = false := by
      rw [Double.stored_eq]
      cases d.isNaN <;> simp
    have hnone (d : Double) : d.stored = none ↔ d.isNaN = true := by
      rw [Double.stored_eq]
      cases d.isNaN <;> simp
    simp only [BoundingBox.IsUniform, List.forall_mem_map, hsome, hnone, Option.some.injEq,
      forall_eq']

/-- The extent read from a record is the one it shows, unless an edge of that is not a number. -/
theorem extent?_eq (h : l.ShowsExtent extent) :
    l.extent? = extent.bind BoundingBox.readBack? := by
  rw [Layer.extent?, h.west, h.south, h.east, h.north]
  cases extent with
  | none => rfl
  | some box =>
    simp only [Option.bind_some, Double.stored_eq, BoundingBox.readBack?, BoundingBox.edges,
      BoundingBox.unsignedZeros]
    cases hwest : box.west.isNaN with
    | true => simp [hwest]
    | false =>
      cases hsouth : box.south.isNaN with
      | true => simp [hsouth]
      | false =>
        cases heast : box.east.isNaN with
        | true => simp [heast]
        | false => cases hnorth : box.north.isNaN <;> simp [hwest, hsouth, heast, hnorth]

end Layer.ShowsExtent

end LayerPress
