import LayerPress.Disk.Path

/-!
# Source formats

The format of a source file is told by the extension of its path, in either case of ASCII.
-/

namespace LayerPress

/-- The format of a source file. -/
inductive SourceFormat where
  | shapefileArchive
  | shapefile
  | geoJson
  | geoPackage
  | geoTiff
  | unknown
  deriving DecidableEq, Repr

/-- A byte with an ASCII capital made small. -/
def asciiLower (b : UInt8) : UInt8 :=
  if 0x41 ≤ b ∧ b ≤ 0x5a then b + 0x20 else b

namespace SourceFormat

/-- The format an extension stands for. -/
def ofExtension (ext : List UInt8) : SourceFormat :=
  let small := ext.map asciiLower
  let is (s : String) : Bool := small == Text.Utf8.encode s
  if is "zip" then shapefileArchive
  else if is "shp" then shapefile
  else if is "geojson" || is "json" then geoJson
  else if is "gpkg" then geoPackage
  else if is "tif" || is "tiff" then geoTiff
  else unknown

/-- The format of the file a path names. -/
def ofPath (p : Path) : SourceFormat :=
  match p.extension? with
  | some ext => ofExtension ext
  | none => unknown

/-- The name of a format. -/
def text : SourceFormat → String
  | shapefileArchive => "shapefile_zip"
  | shapefile => "shapefile"
  | geoJson => "geojson"
  | geoPackage => "geopackage"
  | geoTiff => "geotiff"
  | unknown => "unknown"

/-- Formats that load as features. -/
def isVector : SourceFormat → Bool
  | shapefileArchive | shapefile | geoJson | geoPackage => true
  | geoTiff | unknown => false

end SourceFormat

end LayerPress
