import LayerPress.Rehearsal.Stage

/-!
# Reports

The documents in which a rehearsal tells what it saw: settings, failures, calls, rows, jobs and
extracted trees. A number that is not finite is reported by name.
-/

namespace LayerPress.Rehearsal

/-- The name of a failure's kind. -/
def failureKind : Failure → String
  | .unsupportedFormat _ => "FormatUnsupported"
  | .noShapefile => "NoShapefileFound"
  | .archive _ => "Archive"
  | .conversionFailed _ => "ConversionFailed"
  | .importTimeout _ => "ImportTimeout"
  | .catalogUnreachable _ => "CatalogUnreachable"
  | .catalogRequestFailed .. => "CatalogRequestFailed"
  | .layerNotFound _ => "RecordNotFound"
  | .sourceFileMissing _ => "SourceFileMissing"
  | .metadataQueryFailed _ => "MetadataQueryFailed"
  | .spatialDatabase _ => "SpatialDb"
  | .records _ => "Database"
  | .io _ => "Io"

/-- The fields that report a failure. -/
def failureFields (f : Failure) : List (String × Json) :=
  [("error", .string (failureKind f)), ("message", .string f.message)]

/-- A failure. -/
def failureReport (f : Failure) : Json := .object (failureFields f)

/-- A count. -/
def countReport (n : Nat) : Json := .integer n

/-- A number, by name unless it is finite. -/
def numberReport (d : Double) : Json :=
  if d.isNaN then .string "NaN"
  else if d.isFinite then .double d
  else .string (if d.isNegative then "-inf" else "inf")

/-- An extent as its edges. -/
def boxReport (b : BoundingBox) : Json :=
  .array [numberReport b.west, numberReport b.south, numberReport b.east, numberReport b.north]

/-- A column. -/
def columnReport (c : Column) : Json :=
  .object [("name", .string c.name), ("data_type", .string c.dataType)]

/-- What a finished program left. -/
def outputReport (o : ProcessOutput) : Json :=
  .object [("exit_code", Json.ofOption .integer o.exitCode), ("stdout", .string o.stdout),
    ("stderr", .string o.stderr), ("success", .bool o.success)]

/-- A call to an outside service. -/
def callReport : ServiceCall → Json
  | .run program arguments timeout =>
    .object [("run", .string program), ("args", .array (arguments.map .string)),
      ("timeout_ms", countReport timeout)]
  | .count table => .object [("count", .string table)]
  | .geometryType table => .object [("geom", .string table)]
  | .extent table => .object [("extent", .string table)]
  | .columns table => .object [("columns", .string table)]
  | .drop table => .object [("drop", .string table)]
  | .publish table title workspace store =>
    .object [("publish", .string table), ("title", .string title),
      ("workspace", .string workspace), ("store", .string store)]
  | .unpublish name workspace store =>
    .object [("unpublish", .string name), ("workspace", .string workspace),
      ("store", .string store)]
  | .info name workspace => .object [("info", .string name), ("workspace", .string workspace)]

/-- The answer to a call. -/
def valueReport : (c : ServiceCall) → c.Value → Json
  | .run .., o => outputReport o
  | .count _, n => .integer n
  | .geometryType _, t => Json.ofText? t
  | .extent _, b => Json.ofOption boxReport b
  | .columns _, cs => .array (cs.map columnReport)
  | .drop _, _ => .null
  | .publish .., .created => .string "created"
  | .publish .., .updated => .string "updated"
  | .unpublish .., _ => .null
  | .info .., none => .string "none"
  | .info .., some d => .object [("doc", d)]

/-- A result: the report of a value, or a failure. -/
def resultReport {α : Type} (report : α → Json) : Except Failure α → Json
  | .ok a => .object [("ok", report a)]
  | .error f => failureReport f

/-- A stored layer. -/
def layerReport (l : Layer) : Json :=
  let edge (d : Option Double) : Json := Json.ofOption numberReport d
  .object [
    ("id", .string l.id.text),
    ("title", .string l.title),
    ("slug", .string l.slug),
    ("layer_kind", .string l.layerKind),
    ("geom_kind", .string l.geometryKind),
    ("source_file", Json.ofText? l.sourceFile),
    ("catalog_entry", Json.ofText? l.catalogEntry),
    ("table_name", Json.ofText? l.tableName),
    ("feature_count", .integer l.featureCount),
    ("edges", .array [edge l.west, edge l.south, edge l.east, edge l.north]),
    ("is_published", .bool l.isPublished),
    ("import_status", .string l.importStatus.text),
    ("bbox", Json.ofOption boxReport l.extent?),
    ("touched", .bool (l.updatedAt ≠ l.createdAt))]

/-- A stored attribute. -/
def attributeReport (a : Attribute) : Json :=
  .array [.string a.id.text, .string a.field, .string a.displayName, .bool a.showInPopup,
    .integer a.sortOrder]

/-- A job. -/
def jobReport (j : Job) : Json :=
  .object [
    ("job_id", .string j.id),
    ("kind", .string j.kind.text),
    ("layer_id", Json.ofText? (j.layer.map Uuid.text)),
    ("status", .string j.status.text),
    ("result", Json.ofOption id j.result),
    ("error", Json.ofText? j.error),
    ("finished", .bool j.finishedAt.isSome)]

/-- The answer to a registration: the job's own id, or that of the job in its way. -/
def registrationReport : Except JobId JobId → Json
  | .ok id => .object [("ok", .string id)]
  | .error id => .object [("conflict", .string id)]

/-- Events as they were received, after the number of those lost. -/
def eventsReport (missed : Nat) (events : List TaskEvent) : Json :=
  let lagged := if missed = 0 then [] else [Json.object [("lagged", countReport missed)]]
  .array (lagged ++ events.map TaskEvent.document)

/-- The path and the content of an entry of a tree; a folder has no content. -/
def entryReport (path : List UInt8) : Option Content → Json
  | none => .object [("dir", .string (Text.Utf8.decodeLossy path))]
  | some content =>
    let data := match content with
      | .bytes data => data
      | .archive _ => []
    let head := String.ofList ((Text.Utf8.decodeLossy (data.take 400)).toList.take 40)
    .object [("file", .string (Text.Utf8.decodeLossy path)), ("size", countReport data.length),
      ("head", .string head)]

/-- Everything below a folder, in the order of its paths. -/
def treeReport (l : Listing) : Json :=
  .array (((l.contents []).mergeSort fun a b => !(b.1 < a.1 : Bool)).map fun (path, content) =>
    entryReport path content)

/-- The settings of the spatial database, and how they are handed to its client. -/
def spatialReport (s : SpatialSettings) : List (String × Json) := [
  ("spatial", .object [
    ("host", .string s.host),
    ("port", countReport s.port),
    ("database", .string s.database),
    ("username", .string s.username),
    ("password", .string s.password),
    ("schema", .string s.schema),
    ("ssl_mode", .string s.sslMode.text),
    ("ogr_datasource", .string s.dataSource),
    ("ogr_datasource_redacted", .string s.dataSourceMasked)]),
  ("pg", .object [
    ("hosts", .array [.object [(if s.host.startsWith "/" then "unix" else "tcp", .string s.host)]]),
    ("ports", .array [countReport s.port]),
    ("dbname", .string s.database),
    ("user", .string s.username),
    ("password", .string s.password),
    ("ssl_mode", .string s.sslMode.text),
    ("connect_timeout_secs", countReport 30)])]

/-- The settings of the catalog. -/
def catalogReport (c : CatalogSettings) : Json :=
  .object [
    ("base_url", .string c.baseUrl),
    ("username", .string c.username),
    ("password", .string c.password),
    ("workspace", .string c.workspace),
    ("datastore", .string c.datastore),
    ("request_timeout_secs", countReport c.requestTimeoutSeconds),
    ("rest_url", .string c.restUrl)]

/-- The settings of the program. -/
def settingsReport (s : Settings) : Json :=
  .object (("database_url", .string s.databaseUrl) :: spatialReport s.spatial ++ [
    ("catalog", catalogReport s.catalog),
    ("loader", .object [
      ("ogr2ogr_path", .string s.loader.program),
      ("target_srid", countReport s.loader.targetSrid),
      ("timeout_secs", countReport (s.loader.timeoutMilliseconds / 1000))]),
    ("media_root", .string s.mediaRoot),
    ("workers", countReport s.workers),
    ("max_retries", countReport s.maxRetries),
    ("retry_backoff_secs", countReport s.retryBackoffSeconds),
    ("bind_addr", .string s.bindAddress),
    ("cors_allowed_origins", .array (s.corsOrigins.map .string)),
    ("task_settings", .object [
      ("media_root", .string s.mediaRoot),
      ("workspace", .string s.catalog.workspace),
      ("datastore", .string s.catalog.datastore),
      ("max_retries", countReport s.maxRetries),
      ("retry_backoff_secs", countReport s.retryBackoffSeconds)])])

end LayerPress.Rehearsal
