import LayerPress.CommandLine.Session
import LayerPress.Json.Pretty

/-!
# The program

Reads the arguments and the environment, carries out one command, prints what it has to say and
ends with its code. The machine it runs on starts empty: no server answers and no program can be
started.
-/

namespace LayerPress

/-- The keys of all settings. -/
def settingKeys : List String := [
  "GP_DATABASE_URL", "GP_SPATIAL_HOST", "GP_SPATIAL_PORT", "GP_SPATIAL_DATABASE",
  "GP_SPATIAL_USER", "GP_SPATIAL_PASSWORD", "GP_SPATIAL_SCHEMA", "GP_SPATIAL_SSLMODE",
  "GP_GEOSERVER_URL", "GP_GEOSERVER_USER", "GP_GEOSERVER_PASSWORD", "GP_GEOSERVER_WORKSPACE",
  "GP_GEOSERVER_DATASTORE", "GP_GEOSERVER_TIMEOUT_SECS", "GP_OGR2OGR_PATH", "GP_TARGET_SRID",
  "GP_IMPORT_TIMEOUT_SECS", "GP_MEDIA_ROOT", "GP_WORKERS", "GP_MAX_RETRIES",
  "GP_RETRY_BACKOFF_SECS", "GP_BIND_ADDR", "GP_CORS_ALLOWED_ORIGINS"]

/-- The text of what a command prints. -/
def Printed.text? : Printed → Option String
  | .nothing => none
  | .document d => some d.pretty
  | .layerId id => some id.text

/-- The machine of one run; its first layer gets an id made from a number. -/
def onlyPremises (number : Nat) : Premises Unit Unit where
  systems := Systems.isolated (fun _ _ _ => .error (.io .notFound)) "no server answers"
  listens := fun _ => false
  layerId := fun n => Uuid.ofNat (number + n)
  moment := ⟨1970, 1, 1, 0, 0, 0, 0⟩

/-- A session on an empty machine. -/
def emptySession : Session (Unit × Unit) :=
  ⟨⟨.empty, []⟩, Path.ofText "/tmp", [], ((), ()), 0⟩

end LayerPress

open LayerPress in
/-- Carries out the command of the arguments. -/
def main (arguments : List String) : IO UInt32 := do
  let given ← settingKeys.filterMapM fun key => return (← IO.getEnv key).map (key, ·)
  let number := 0x00000000000070008000000000000000 + (← IO.monoNanosNow) * Nat.pow 2 80
  let (result, _) :=
    emptySession.perform (onlyPremises number) (fun key => given.lookup key) arguments
  if let some text := result.printed.text? then IO.println text
  return UInt32.ofNat (result.exitCode.getD 0)
