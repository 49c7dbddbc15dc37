import LayerPress.Catalog.Client
import LayerPress.SpatialDb.Store
import LayerPress.Work.Site

/-!
# Outside systems

The services behind an import: programs that are run, the spatial database's server and the
catalog's. Each call of an import or a teardown becomes one dialogue with the system that it
belongs to, which keeps a state of its own.
-/

namespace LayerPress

/-- The outside systems, with the states of the two servers. -/
structure Systems (δ κ : Type) where
  runProgram : String → List String → Nat → Except Failure ProcessOutput
  database : SpatialDb.Server δ
  catalog : Catalog.Server κ

namespace Systems

variable {δ κ : Type}

/-- The client that the settings describe. -/
def client (settings : Settings) : Catalog.Client where
  settings := settings.catalog
  spatial := settings.spatial
  targetSrid := settings.loader.targetSrid

/-- A dialogue with the spatial database. -/
def askDatabase {α : Type} (sys : Systems δ κ) (d : SpatialDb.Dialogue α) (s : δ × κ) :
    Except Failure α × (δ × κ) :=
  let (a, after) := SpatialDb.converse sys.database d s.1
  (a, (after, s.2))

/-- A dialogue with the catalog. -/
def askCatalog {α : Type} (sys : Systems δ κ) (d : Catalog.Dialogue α) (s : δ × κ) :
    Except Failure α × (δ × κ) :=
  let (a, after) := Catalog.converse sys.catalog d s.2
  (a, (s.1, after))

/-- The answer to a call. -/
def answer (sys : Systems δ κ) (settings : Settings) :
    (c : ServiceCall) → δ × κ → Except Failure c.Value × (δ × κ)
  | .run program arguments timeout, s => (sys.runProgram program arguments timeout, s)
  | .count table, s => sys.askDatabase (SpatialDb.count settings.spatial.schema table) s
  | .geometryType table, s =>
    sys.askDatabase (SpatialDb.geometryType settings.spatial.schema table) s
  | .extent table, s => sys.askDatabase (SpatialDb.extent settings.spatial.schema table) s
  | .columns table, s => sys.askDatabase (SpatialDb.columns settings.spatial.schema table) s
  | .drop table, s => sys.askDatabase (SpatialDb.drop settings.spatial.schema table) s
  | .publish table title workspace store, s =>
    sys.askCatalog ((client settings).publish table title workspace store) s
  | .unpublish name workspace store, s =>
    sys.askCatalog ((client settings).delete name workspace store) s
  | .info name workspace, s => sys.askCatalog ((client settings).info name workspace) s

/-- The surroundings of an import: these systems, a sound record store and a clock that stands
still. -/
def surroundings (sys : Systems δ κ) (settings : Settings) (moment : Timestamp) :
    Surroundings (δ × κ) where
  answer := sys.answer settings
  recordFault := fun _ s => (none, s)
  now := fun s => (moment, s)

/-- Systems of which no server can be reached. -/
def isolated (runProgram : String → List String → Nat → Except Failure ProcessOutput)
    (reason : String) : Systems Unit Unit where
  runProgram := runProgram
  database := SpatialDb.unreachable
  catalog := Catalog.unreachable reason

end Systems

end LayerPress
