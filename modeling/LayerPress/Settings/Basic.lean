import LayerPress.Disk.Path
import LayerPress.Settings.Connection
import LayerPress.Text.CaseMap
import LayerPress.Text.Numeral
import LayerPress.Text.Quoted

/-!
# Settings

Every setting is read from an environment of texts and has a default, except the two passwords,
which must be there and not be empty. Numbers are trimmed and must fit their width. Settings are
read in a fixed order, and the first that is refused is reported.
-/

namespace LayerPress

/-- A lookup of settings by key. -/
abbrev Environment := String → Option String

/-- Why the settings are refused. -/
inductive SettingsError where
  | missing (key : String)
  | invalid (key : String) (text : String)
  deriving DecidableEq, Repr

/-- The text shown for a refusal. -/
def SettingsError.message : SettingsError → String
  | .missing key => s!"Missing required setting: {key}"
  | .invalid key text => s!"Invalid value for {key}: {text}"

/-- Where the catalog is and the names it publishes under. -/
structure CatalogSettings where
  baseUrl : String
  username : String
  password : String
  workspace : String
  datastore : String
  requestTimeoutSeconds : Nat
  deriving DecidableEq, Repr

/-- The text without the slashes it ends with. -/
def trimSlashes (s : String) : String :=
  String.ofList (s.toList.reverse.dropWhile (· == '/')).reverse

/-- The root of the catalog's interface. -/
def CatalogSettings.restUrl (c : CatalogSettings) : String :=
  trimSlashes c.baseUrl ++ "/rest"

/-- How sources are converted. -/
structure LoaderSettings where
  program : String
  targetSrid : Nat
  timeoutMilliseconds : Nat
  deriving DecidableEq, Repr

/-- The settings of the program. -/
structure Settings where
  databaseUrl : String
  spatial : SpatialSettings
  catalog : CatalogSettings
  loader : LoaderSettings
  mediaRoot : String
  workers : Nat
  maxRetries : Nat
  retryBackoffSeconds : Nat
  bindAddress : String
  corsOrigins : List String
  deriving DecidableEq, Repr

namespace Settings

/-- A setting with a default. -/
def textOr (env : Environment) (key default : String) : String :=
  (env key).getD default

/-- A setting that must be there and not be empty. -/
def required (env : Environment) (key : String) : Except SettingsError String :=
  match env key with
  | some value => if value.isEmpty then .error (.missing key) else .ok value
  | none => .error (.missing key)

/-- A number below a limit, with a default. -/
def numberOr (env : Environment) (key : String) (limit default : Nat) :
    Except SettingsError Nat :=
  match env key with
  | none => .ok default
  | some raw =>
    match Text.readNumeral limit (Text.trimChars raw.toList) with
    | .ok n => .ok n
    | .error e => .error (.invalid key e.message)

/-- A text with its ASCII capitals made small. -/
def asciiLowerText (cs : List Char) : String :=
  String.ofList (cs.map fun c => if 'A' ≤ c ∧ c ≤ 'Z' then Char.ofNat (c.toNat + 32) else c)

/-- The encryption mode a text names. -/
def sslMode (raw : String) : Except SettingsError SslMode :=
  let name := asciiLowerText (Text.trimChars raw.toList)
  if name = "disable" then .ok .disable
  else if name = "prefer" then .ok .prefer
  else .error (.invalid "GP_SPATIAL_SSLMODE"
    (Text.Quoted.quote name ++ " is not supported (TLS is not available; use disable or prefer)"))

/-- The nonempty trimmed pieces between commas. -/
def origins (raw : String) : List String :=
  (((Text.splitAll ',' raw.toList).map Text.trimChars).filter (!·.isEmpty)).map String.ofList

/-- The settings an environment holds. -/
def read (env : Environment) : Except SettingsError Settings := do
  let port ← numberOr env "GP_SPATIAL_PORT" UInt16.size 5432
  let spatialPassword ← required env "GP_SPATIAL_PASSWORD"
  let mode ← sslMode (textOr env "GP_SPATIAL_SSLMODE" "prefer")
  let catalogPassword ← required env "GP_GEOSERVER_PASSWORD"
  let requestTimeout ← numberOr env "GP_GEOSERVER_TIMEOUT_SECS" UInt64.size 30
  let srid ← numberOr env "GP_TARGET_SRID" UInt32.size 4326
  let importTimeout ← numberOr env "GP_IMPORT_TIMEOUT_SECS" UInt64.size 300
  let workers ← numberOr env "GP_WORKERS" UInt64.size 4
  if workers = 0 then throw (.invalid "GP_WORKERS" "must be at least 1")
  let maxRetries ← numberOr env "GP_MAX_RETRIES" UInt32.size 2
  let backoff ← numberOr env "GP_RETRY_BACKOFF_SECS" UInt64.size 10
  return {
    databaseUrl := textOr env "GP_DATABASE_URL" "sqlite://geoportal.db?mode=rwc"
    spatial := {
      host := textOr env "GP_SPATIAL_HOST" "localhost"
      port := port
      database := textOr env "GP_SPATIAL_DATABASE" "geoportal"
      username := textOr env "GP_SPATIAL_USER" "postgres"
      password := spatialPassword
      schema := textOr env "GP_SPATIAL_SCHEMA" "public"
      sslMode := mode }
    catalog := {
      baseUrl := textOr env "GP_GEOSERVER_URL" "http://localhost:8080/geoserver"
      username := textOr env "GP_GEOSERVER_USER" "admin"
      password := catalogPassword
      workspace := textOr env "GP_GEOSERVER_WORKSPACE" "geoportal"
      datastore := textOr env "GP_GEOSERVER_DATASTORE" "postgis"
      requestTimeoutSeconds := requestTimeout }
    loader := {
      program := textOr env "GP_OGR2OGR_PATH" "/usr/bin/ogr2ogr"
      targetSrid := srid
      timeoutMilliseconds := importTimeout * 1000 }
    mediaRoot := textOr env "GP_MEDIA_ROOT" "media"
    workers := workers
    maxRetries := maxRetries
    retryBackoffSeconds := backoff
    bindAddress := textOr env "GP_BIND_ADDR" "127.0.0.1:5480"
    corsOrigins := origins (textOr env "GP_CORS_ALLOWED_ORIGINS" "") }

end Settings

end LayerPress
