import LayerPress.CommandLine.Command
import LayerPress.Records.Place
import LayerPress.Startup
import LayerPress.Systems
import LayerPress.Work.Teardown

/-!
# Carrying out commands

A command is carried out in a session: files, record databases and outside systems that outlast
it. The arguments are read first, then the settings, and then the record database is opened; the
first that fails ends the command. An outcome that is a failure is printed all the same.
-/

namespace LayerPress

/-- What a command prints. -/
inductive Printed where
  | nothing
  | document (d : Json)
  | layerId (id : Uuid)
  deriving Repr

/-- How a command ended: its exit code and what it printed. A service that stays up has no
code. -/
structure CommandResult where
  exitCode : Option Nat
  printed : Printed
  deriving Repr

/-- A command that ended with a code and printed nothing. -/
def CommandResult.silent (code : Nat) : CommandResult := ⟨some code, .nothing⟩

/-- What outlasts a command. -/
structure Session (σ : Type) where
  disk : Disk
  scratchRoot : Path
  files : RecordFiles
  outside : σ
  nextLayer : Nat

/-- What commands are told about the machine they run on: the outside systems, whether an address
can be listened at, the ids of new layers, and the time. -/
structure Premises (δ κ : Type) where
  systems : Systems δ κ
  listens : String → Bool
  layerId : Nat → Uuid
  moment : Timestamp

namespace Session

variable {δ κ : Type}

/-- The code of an outcome. -/
def codeOf (success : Bool) : Nat := if success then 0 else 1

/-- The site that work sees. -/
def site (s : Session (δ × κ)) (records : Records) : Site (δ × κ) where
  disk := s.disk
  scratchRoot := s.scratchRoot
  records := records
  working := none
  outside := s.outside
  stages := []

/-- Runs work in a session: its result, the records after it and the session after it. -/
def runWork {α : Type} (s : Session (δ × κ)) (env : Surroundings (δ × κ)) (records : Records)
    (w : Work α) : α × Records × Session (δ × κ) :=
  let (a, after) := (s.site records).run env w
  (a, after.records, { s with disk := after.disk, outside := after.outside })

/-- Starts the service; it ends at once if it crashes or cannot listen. -/
def startService (p : Premises δ κ) (settings : Settings) : CommandResult :=
  match startPool settings.workers with
  | .error _ => .silent 101
  | .ok _ =>
    if !p.listens settings.bindAddress then .silent 1
    else match startRouter settings.corsOrigins with
      | .error _ => .silent 101
      | .ok _ => ⟨none, .nothing⟩

/-- Carries out a command on open records. -/
def execute (p : Premises δ κ) (settings : Settings) (s : Session (δ × κ)) (records : Records) :
    Command → CommandResult × Records × Session (δ × κ)
  | .serve => (startService p settings, records, s)
  | .importLayer id =>
    let (o, after, s) := s.runWork (p.systems.surroundings settings p.moment) records
      (Work.runImport settings.importSettings id)
    (⟨some (codeOf o.success), .document o.document⟩, after, s)
  | .delete table entry =>
    let (o, after, s) := s.runWork (p.systems.surroundings settings p.moment) records
      (Work.runTeardown settings.importSettings table entry)
    (⟨some (codeOf o.success), .document o.document⟩, after, s)
  | .createLayer title slug layerKind geometryKind sourceFile =>
    let id := p.layerId s.nextLayer
    let s := { s with nextLayer := s.nextLayer + 1 }
    match records.insertLayer
        (Layer.declared id title slug layerKind geometryKind sourceFile p.moment) with
    | .ok after => (⟨some 0, .layerId id⟩, after, s)
    | .error _ => (.silent 1, records, s)

/-- Carries out the command that arguments spell, under the settings of an environment. -/
def perform (p : Premises δ κ) (env : Environment) (arguments : List String)
    (s : Session (δ × κ)) : CommandResult × Session (δ × κ) :=
  match Command.ofArguments arguments with
  | .error .refused => (.silent 2, s)
  | .error .help => (.silent 0, s)
  | .ok command =>
    match Settings.read env with
    | .error _ => (.silent 1, s)
    | .ok settings =>
      match (RecordPlace.ofAddress? settings.databaseUrl).bind (s.files.openPlace s.disk) with
      | none => (.silent 1, s)
      | some (records, position) =>
        let (result, after, s) := s.execute p settings records command
        (result, { s with files := s.files.keep position after })

end Session

end LayerPress
