import LayerPress.Naming
import LayerPress.Procedure
import LayerPress.Services
import LayerPress.Settings.Connection
import LayerPress.Work.Load

/-!
# Tables of the spatial database

The statements by which a table is counted, sampled, measured, described and dropped. Names
stand in them as quoted identifiers, or beside them as parameters. Every call connects anew and
bounds the time of its statement first; any fault ends the call.
-/

namespace LayerPress.SpatialDb

/-- A value in a row. -/
inductive Cell where
  | null
  | integer (value : Int)
  | double (value : Double)
  | text (value : String)
  deriving DecidableEq, Repr

/-- A statement with its parameters. -/
structure Query where
  sql : String
  params : List String
  deriving DecidableEq, Repr

/-- Why a connection fails: nobody answers, or the server refuses. -/
inductive ConnectFault where
  | unreachable
  | refused
  deriving DecidableEq, Repr

/-- The wording of a connection's fault. -/
def ConnectFault.message : ConnectFault → String
  | unreachable => "connect: error connecting to server"
  | refused => "connect: db error"

/-- What is asked of the server. -/
inductive ServerAction where
  | connect
  | execute (q : Query)
  deriving DecidableEq, Repr

/-- The server's answers; a refused statement has no rows. -/
abbrev ServerAction.Answer : ServerAction → Type
  | connect => Except ConnectFault Unit
  | execute _ => Option (List (List Cell))

/-- The signature of server actions. -/
abbrev serverActions : Signature := ⟨ServerAction, ServerAction.Answer⟩

/-- A dialogue with the server, which may fail. -/
abbrev Dialogue := ExceptT Failure (Procedure serverActions)

/-- Connects. -/
def connect : Dialogue Unit :=
  ExceptT.mk do
    let answer ← Procedure.ask (S := serverActions) .connect
    return answer.mapError fun f => .spatialDatabase f.message

/-- Executes a statement. -/
def execute (q : Query) : Dialogue (List (List Cell)) :=
  ExceptT.mk do
    match ← Procedure.ask (S := serverActions) (.execute q) with
    | some rows => return .ok rows
    | none => return .error (.spatialDatabase "db error")

/-- The statement that bounds the time of those after it. -/
def timeLimit : Query := ⟨"SET statement_timeout = '60s'", []⟩

/-- Connects and executes a statement. -/
def ask (q : Query) : Dialogue (List (List Cell)) := do
  connect
  let _ ← execute timeLimit
  execute q

/-- The failure of a statement that answers with the wrong number of rows. -/
def wrongRowCount : Failure :=
  .spatialDatabase "query returned an unexpected number of rows"

/-- A table's qualified name. -/
def qualified (schema table : String) : String :=
  Naming.quoteIdentifier schema ++ "." ++ Naming.quoteIdentifier table

/-- The quoted geometry column. -/
def geometry : String := Naming.quoteIdentifier geometryColumn

/-- Counts the rows of a table. -/
def countQuery (schema table : String) : Query :=
  ⟨"SELECT COUNT(*) FROM " ++ qualified schema table, []⟩

/-- Takes the type of one geometry of a table. -/
def sampleQuery (schema table : String) : Query :=
  ⟨"SELECT GeometryType(" ++ geometry ++ ") FROM " ++ qualified schema table ++ " WHERE " ++
    geometry ++ " IS NOT NULL LIMIT 1", []⟩

/-- Takes the edges of a table's extent. -/
def extentQuery (schema table : String) : Query :=
  ⟨"SELECT ST_XMin(e), ST_YMin(e), ST_XMax(e), ST_YMax(e) FROM (SELECT ST_Extent(" ++ geometry ++
    ") AS e FROM " ++ qualified schema table ++ ") AS extent", []⟩

/-- Lists the columns of a table but its key and its geometry. -/
def columnsQuery (schema table : String) : Query :=
  ⟨"SELECT column_name, data_type FROM information_schema.columns " ++
    "WHERE table_schema = $1 AND table_name = $2 AND column_name NOT IN ($3, $4) " ++
    "ORDER BY ordinal_position", [schema, table, keyColumn, geometryColumn]⟩

/-- Drops a table if it is there, with all that depends on it. -/
def dropQuery (schema table : String) : Query :=
  ⟨"DROP TABLE IF EXISTS " ++ qualified schema table ++ " CASCADE", []⟩

/-- A cell that holds a double. -/
def Cell.double? : Cell → Option Double
  | double d => some d
  | _ => none

/-- The number of features of a table. -/
def count (schema table : String) : Dialogue Int := do
  match ← ask (countQuery schema table) with
  | [[.integer n]] => return n
  | _ => throw wrongRowCount

/-- The type of one geometry, if there is one. -/
def geometryType (schema table : String) : Dialogue (Option String) := do
  match ← ask (sampleQuery schema table) with
  | [] => return none
  | [[.text t]] => return some t
  | [[.null]] => return none
  | _ => throw wrongRowCount

/-- The extent of a table, if all four edges are known. -/
def extent (schema table : String) : Dialogue (Option BoundingBox) := do
  match ← ask (extentQuery schema table) with
  | [[west, south, east, north]] =>
    return do return ⟨← west.double?, ← south.double?, ← east.double?, ← north.double?⟩
  | _ => throw wrongRowCount

/-- The column a row describes. -/
def columnOfRow? : List Cell → Option Column
  | [.text name, .text dataType] => some ⟨name, dataType⟩
  | _ => none

/-- The columns of a table in their order. -/
def columns (schema table : String) : Dialogue (List Column) := do
  return (← ask (columnsQuery schema table)).filterMap columnOfRow?

/-- Drops a table. -/
def drop (schema table : String) : Dialogue Unit := do
  let _ ← ask (dropQuery schema table)

/-- A server: its answers, by a state of its own. -/
abbrev Server (σ : Type) := (a : ServerAction) → σ → a.Answer × σ

/-- Runs a dialogue with a server to its end. -/
def converse {σ α : Type} (server : Server σ) (d : Dialogue α) (s : σ) : Except Failure α × σ :=
  Procedure.run (S := serverActions) server d.run s

/-- A server that nobody reaches. -/
def unreachable : Server Unit
  | .connect, s => (.error .unreachable, s)
  | .execute _, s => (none, s)

end LayerPress.SpatialDb
