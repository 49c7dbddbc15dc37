import LayerPress.Admin.Handlers
import LayerPress.Admin.LayerIds
import LayerPress.Admin.MediaType
import LayerPress.Text.Percent

/-!
# Routing requests

A request is routed by the segments of its path as they are written; a segment that is a layer
or job id is percent-decoded. A known path answers other methods with those it has, and every
method named OPTIONS with what browsers may send. Allowed origins are repeated in the answers to
them, and every answer forbids guessing its type.
-/

namespace LayerPress.Admin

/-- The places of the interface; ids are segments as they are written. -/
inductive Route where
  | health
  | layers
  | layersImport
  | layersReset
  | layer (id : List Char)
  | layerImport (id : List Char)
  | layerCatalog (id : List Char)
  | job (id : List Char)
  | jobEvents (id : List Char)
  deriving DecidableEq, Repr

/-- The path of an address, without its query and fragment. -/
def pathOf (uri : String) : List Char :=
  uri.toList.takeWhile fun c => c != '?' && c != '#'

/-- The place below the interface's root that segments lead to. -/
def Route.below (segments : List (List Char)) : Option Route :=
  let is (s : List Char) (name : String) : Bool := s == name.toList
  match segments with
  | [a] => if is a "layers" then some .layers else none
  | [a, b] =>
    if is a "layers" then
      if is b "import" then some .layersImport
      else if is b "reset" then some .layersReset
      else if b.isEmpty then none
      else some (.layer b)
    else if is a "jobs" && !b.isEmpty then some (.job b)
    else none
  | [a, b, c] =>
    if b.isEmpty then none
    else if is a "layers" && is c "import" then some (.layerImport b)
    else if is a "layers" && is c "catalog" then some (.layerCatalog b)
    else if is a "jobs" && is c "events" then some (.jobEvents b)
    else none
  | _ => none

/-- The place a path leads to. -/
def Route.ofPath (path : List Char) : Option Route :=
  match Text.splitAll '/' path with
  | [[], first] => if first == "health".toList then some .health else none
  | [] :: first :: second :: rest =>
    if first == "api".toList && second == "v1".toList then Route.below rest else none
  | _ => none

/-- The methods of a place. -/
def Route.methods : Route → List String
  | health | layers | layerCatalog _ | job _ | jobEvents _ => ["GET", "HEAD"]
  | layersImport | layersReset | layerImport _ => ["POST"]
  | layer _ => ["GET", "HEAD", "DELETE"]

/-- The methods of a place as a header names them. -/
def Route.allow (r : Route) : String :=
  Text.joinWith "," r.methods

/-- A layer id in a path. -/
def layerId (segment : List Char) : Except Response Uuid :=
  match Text.Percent.decodeText? segment with
  | none => .error (Response.refusal 400 "Invalid UTF-8 in a path parameter")
  | some text =>
    match Uuid.parse? text with
    | some id => .ok id
    | none => .error (Response.refusal 400 "Invalid URL: UUID parsing failed")

/-- A job id in a path. -/
def jobId (segment : List Char) : Except Response JobId :=
  match Text.Percent.decodeText? segment with
  | none => .error (Response.refusal 400 "Invalid UTF-8 in a path parameter")
  | some text => .ok text

/-- The ids in the body of a bulk request. -/
def bodyIds (r : Request) : Except Response (List Uuid) :=
  if !((r.headers.value? "content-type").any MediaType.isJson) then
    .error (Response.refusal 415 "Expected request with a JSON content type")
  else match LayerIds.read r.body with
    | .ok ids => .ok ids
    | .error .malformed =>
      .error (Response.refusal 400 "Failed to parse the request body as JSON")
    | .error .misshapen =>
      .error (Response.refusal 422 "Failed to deserialize the JSON body into the target type")

/-- Handling with an argument that may have been refused. -/
def withArgument {α : Type} (argument : Except Response α) (k : α → Handling Response) :
    Handling Response :=
  match argument with
  | .ok a => k a
  | .error r => throw r

/-- What a place does for one of its methods. -/
def Route.handling (route : Route) (r : Request) : Handling Response :=
  match route with
  | health => return Response.bare 200
  | layers => Handling.listLayers
  | layersImport => withArgument (bodyIds r) Handling.bulkImport
  | layersReset => withArgument (bodyIds r) Handling.bulkReset
  | layer id =>
    withArgument (layerId id)
      (if r.method == "DELETE" then Handling.deleteLayer else Handling.showLayer)
  | layerImport id => withArgument (layerId id) Handling.submitImport
  | layerCatalog id => withArgument (layerId id) Handling.catalogLayer
  | job id => withArgument (jobId id) Handling.showJob
  | jobEvents id => withArgument (jobId id) Handling.followJob

/-- An origin that can stand in a header: visible ASCII and tabs. -/
def isHeaderText (s : String) : Bool :=
  s.toList.all fun c => (0x20 ≤ c.toNat && c.toNat < 0x7f) || c == '\t'

/-- The origins that can be compared with a header. -/
def usableOrigins (origins : List String) : List String :=
  origins.filter isHeaderText

/-- The answer with the request's origin repeated if it is allowed. -/
def withOrigin (origins : List String) (r : Request) (a : Response) : Response :=
  match r.headers.value? "origin" with
  | some o =>
    if (usableOrigins origins).contains o then a.withHeader "access-control-allow-origin" o else a
  | none => a

/-- The answer to a question about what may be sent. -/
def preflight (origins : List String) : Response :=
  if (usableOrigins origins).isEmpty then Response.bare 200
  else ((Response.bare 200).withHeader "access-control-allow-methods" "GET,POST,DELETE").withHeader
    "access-control-allow-headers" "content-type"

/-- The answer with the header that forbids guessing its type. -/
def withNoSniff (a : Response) : Response :=
  a.withHeader "x-content-type-options" "nosniff"

/-- Answers a request. -/
def respond (origins : List String) (r : Request) : Task Response :=
  let finish (a : Response) : Response := withNoSniff (withOrigin origins r a)
  match Route.ofPath (pathOf r.uri) with
  | none =>
    return finish (if r.method == "OPTIONS" then preflight origins else Response.bare 404)
  | some route =>
    if r.method == "OPTIONS" then
      return finish ((preflight origins).withHeader "allow" route.allow)
    else if route.methods.contains r.method then do
      let a ← (route.handling r).answer
      return finish (if r.method == "HEAD" then a.withoutBody else a)
    else return finish ((Response.bare 405).withHeader "allow" route.allow)

end LayerPress.Admin
