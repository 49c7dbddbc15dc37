import LayerPress.Text.Alphabetic
import LayerPress.Text.Blank
import LayerPress.Text.CaseMap
import LayerPress.Text.Split

/-!
# Names of tables, columns and catalog entries

A layer's table is named after its slug, with everything but small ASCII letters and digits
collapsed to underscores. Columns get labels in title case. An identifier is quoted for SQL by
doubling its quotes, and a catalog entry names a workspace and a layer in it.
-/

namespace LayerPress.Naming

/-- The characters a table name keeps. -/
def isPlain (c : Char) : Bool :=
  ('a' ≤ c && c ≤ 'z') || ('0' ≤ c && c ≤ '9')

/-- Each run of other characters becomes one underscore; the flag tells whether a run is open. -/
def collapse : Bool → List Char → List Char
  | _, [] => []
  | inRun, c :: rest =>
    if isPlain c then c :: collapse false rest
    else if inRun then collapse true rest
    else '_' :: collapse true rest

/-- The characters of the table name of a slug. -/
def tableChars (slug : List Char) : List Char :=
  collapse false (Text.lower slug)

/-- The table name of a layer's slug. -/
def tableName (slug : String) : String :=
  String.ofList (tableChars slug.toList)

/-- A label in title case; the flag tells whether the character before is alphabetic. -/
def titleCase : Bool → List Char → List Char
  | _, [] => []
  | inWord, c :: rest =>
    if Text.isAlphabetic c then
      (if inWord then Text.lowerChar c else Text.upperChar c) ++ titleCase true rest
    else c :: titleCase false rest

/-- An underscore is shown as a space. -/
def spaced (c : Char) : Char :=
  if c == '_' then ' ' else c

/-- The characters of a column's label. -/
def labelChars (field : List Char) : List Char :=
  titleCase false (field.map spaced)

/-- The label of a column: words apart, each with a capital. -/
def displayLabel (field : String) : String :=
  String.ofList (labelChars field.toList)

/-- A character inside a quoted identifier. -/
def quoteChar (c : Char) : List Char :=
  if c == '"' then ['"', '"'] else [c]

/-- A quoted identifier, by its characters. -/
def quoteChars (name : List Char) : List Char :=
  '"' :: (name.flatMap quoteChar ++ ['"'])

/-- An identifier quoted for a statement. -/
def quoteIdentifier (name : String) : String :=
  String.ofList (quoteChars name.toList)

/-- The workspace and the layer of a catalog entry, cut at the first colon; neither is empty. -/
def splitEntry (entry : String) : Option (String × String) :=
  match Text.splitFirst ':' entry.toList with
  | some (workspace, name) =>
    if workspace.isEmpty || name.isEmpty then none
    else some (String.ofList workspace, String.ofList name)
  | none => none

/-- The kind of geometry a layer holds. -/
inductive GeometryKind where
  | point
  | line
  | polygon
  | multi
  deriving DecidableEq, Repr

/-- The name of a kind. -/
def GeometryKind.text : GeometryKind → String
  | point => "point"
  | line => "line"
  | polygon => "polygon"
  | multi => "multi"

/-- An ASCII letter as a capital. -/
def asciiUpper (c : Char) : Char :=
  if 'a' ≤ c ∧ c ≤ 'z' then Char.ofNat (c.toNat - 32) else c

/-- One text ends with another. -/
def endsWith (cs ending : List Char) : Bool :=
  cs.drop (cs.length - ending.length) == ending

/-- The kind of a geometry type as the spatial database names it, blanks at the ends and ASCII
case aside. -/
def GeometryKind.ofType (type : String) : GeometryKind :=
  let name := (Text.trimChars type.toList).map asciiUpper
  if name = "POINT".toList ∨ name = "MULTIPOINT".toList then point
  else if endsWith name "LINESTRING".toList then line
  else if endsWith name "POLYGON".toList then polygon
  else multi

end LayerPress.Naming
