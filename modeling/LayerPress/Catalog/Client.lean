import LayerPress.Catalog.Url
import LayerPress.Procedure
import LayerPress.Services
import LayerPress.Settings.Basic
import LayerPress.Text.Base64

/-!
# The map catalog's client

What is asked of the catalog to publish a table, to delete a feature type and to show a layer.
Publishing makes sure that the workspace and the datastore exist, looking before creating, and
then creates or updates the feature type. Every question is asked once: a fault of the transport
or a refused change ends the call.
-/

namespace LayerPress.Catalog

/-- A request to the catalog. -/
structure Request where
  method : String
  url : Url
  authorization : String
  body : Option Json
  deriving Repr

/-- The catalog's answer. -/
structure Reply where
  status : Nat
  body : String
  deriving DecidableEq, Repr

/-- Requests and their answers; a fault of the transport is a text. -/
abbrev exchange : Signature := ⟨Request, fun _ => Except String Reply⟩

/-- A dialogue with the catalog, which may fail. -/
abbrev Dialogue := ExceptT Failure (Procedure exchange)

/-- What the client knows. -/
structure Client where
  settings : CatalogSettings
  spatial : SpatialSettings
  targetSrid : Nat
  deriving DecidableEq, Repr

namespace Client

/-- The reference system of published tables. -/
def srs (c : Client) : String :=
  "EPSG:" ++ toString c.targetSrid

/-- The login of every request. -/
def authorization (c : Client) : String :=
  "Basic " ++ String.ofList (Text.Base64.encode
    (Text.Utf8.encode (c.settings.username ++ ":" ++ c.settings.password)))

/-- Sends a request for a path below the catalog's interface. -/
def send (c : Client) (method path : String) (body : Option Json) : Dialogue Reply :=
  match Url.parse? (c.settings.restUrl ++ path) with
  | none => throw (.catalogUnreachable "builder error")
  | some url =>
    ExceptT.mk do
      let answer ← Procedure.ask (S := exchange) ⟨method, url, c.authorization, body⟩
      return answer.mapError Failure.catalogUnreachable

/-- A resource exists when asking for it is answered with 200. -/
def isThere (c : Client) (path : String) : Dialogue Bool := do
  let reply ← c.send "GET" path none
  return reply.status == 200

/-- A change must be answered with one of the given statuses. -/
def accept (statuses : List Nat) (reply : Reply) : Dialogue Unit :=
  if statuses.contains reply.status then return ()
  else throw (.catalogRequestFailed reply.status reply.body)

/-- Sends a document that changes something. -/
def change (c : Client) (method path : String) (document : Json) : Dialogue Unit := do
  accept [200, 201] (← c.send method path (some document))

/-- The document of a workspace. -/
def workspaceDocument (workspace : String) : Json :=
  .object [("workspace", .object [("name", .string workspace)])]

/-- One connection parameter of a datastore. -/
def parameter (key value : String) : Json :=
  .object [("@key", .string key), ("$", .string value)]

/-- The document of the datastore over the spatial database. -/
def datastoreDocument (c : Client) (store : String) : Json :=
  .object [("dataStore", .object [
    ("name", .string store),
    ("type", .string "PostGIS"),
    ("connectionParameters", .object [("entry", .array [
      parameter "host" c.spatial.host,
      parameter "port" (toString c.spatial.port),
      parameter "database" c.spatial.database,
      parameter "user" c.spatial.username,
      parameter "passwd" c.spatial.password,
      parameter "dbtype" "postgis",
      parameter "schema" c.spatial.schema])])])]

/-- The fields of a feature type that creating and updating have in common. -/
def featureFields (c : Client) (title : String) : List (String × Json) :=
  [("title", .string title), ("enabled", .bool true), ("srs", .string c.srs)]

/-- The document that updates a feature type. -/
def updateDocument (c : Client) (table title : String) : Json :=
  .object [("featureType", .object (("name", .string table) :: c.featureFields title))]

/-- The document that creates a feature type. -/
def createDocument (c : Client) (table title : String) : Json :=
  .object [("featureType", .object
    (("name", .string table) :: ("nativeName", .string table) :: c.featureFields title))]

/-- The path of the feature types of a datastore. -/
def featureTypesPath (workspace store : String) : String :=
  "/workspaces/" ++ workspace ++ "/datastores/" ++ store ++ "/featuretypes"

/-- Makes sure that a workspace exists. -/
def ensureWorkspace (c : Client) (workspace : String) : Dialogue Unit := do
  if ← c.isThere ("/workspaces/" ++ workspace ++ ".json") then return ()
  else c.change "POST" "/workspaces" (workspaceDocument workspace)

/-- Makes sure that a datastore exists. -/
def ensureDatastore (c : Client) (store workspace : String) : Dialogue Unit := do
  let stores := "/workspaces/" ++ workspace ++ "/datastores"
  if ← c.isThere (stores ++ "/" ++ store ++ ".json") then return ()
  else c.change "POST" stores (c.datastoreDocument store)

/-- Publishes a table. -/
def publish (c : Client) (table title workspace store : String) : Dialogue PublishAction := do
  c.ensureWorkspace workspace
  c.ensureDatastore store workspace
  let types := featureTypesPath workspace store
  let own := types ++ "/" ++ table ++ ".json"
  if ← c.isThere own then
    c.change "PUT" own (c.updateDocument table title)
    return .updated
  else
    c.change "POST" types (c.createDocument table title)
    return .created

/-- Deletes a feature type with the layer built on it. -/
def delete (c : Client) (name workspace store : String) : Dialogue Unit := do
  let reply ← c.send "DELETE"
    (featureTypesPath workspace store ++ "/" ++ name ++ "?recurse=true") none
  accept [200, 204] reply

/-- The document of a layer; anything but an answer with 200 means there is none. -/
def info (c : Client) (name workspace : String) : Dialogue (Option Json) := do
  let reply ← c.send "GET" ("/workspaces/" ++ workspace ++ "/layers/" ++ name ++ ".json") none
  if reply.status != 200 then return none
  else match Json.parse? reply.body with
    | some document => return some document
    | none => throw (.catalogUnreachable "error decoding response body")

end Client

/-- A server: its answer to a request, by a state of its own. -/
abbrev Server (σ : Type) := Request → σ → Except String Reply × σ

/-- Runs a dialogue with a server to its end. -/
def converse {σ α : Type} (server : Server σ) (d : Dialogue α) (s : σ) : Except Failure α × σ :=
  Procedure.run (S := exchange) server d.run s

/-- A server that is never reached, for a reason. -/
def unreachable (reason : String) : Server Unit :=
  fun _ s => (.error reason, s)

end LayerPress.Catalog
