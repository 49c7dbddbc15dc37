import LayerPress.Jobs.Interleaving
import LayerPress.Rehearsal.Script

/-!
# A plain office

Surroundings in which every call succeeds and no record action fails, and a site that holds one
source file. Concrete courses of events start here.
-/

namespace LayerPress

/-- Services that answer as plain scripts do, a sound record store and a clock that stands
still. -/
def Surroundings.plain : Surroundings Unit where
  answer c s := ((Rehearsal.Scripts.plain.answer c).1, s)
  recordFault _ s := (none, s)
  now s := (⟨2020, 1, 1, 0, 0, 0, 0⟩, s)

/-- Settings with a media folder at the root and no repetitions. -/
def ImportSettings.plain : ImportSettings where
  mediaRoot := ⟨[Path.slash]⟩
  workspace := "gis"
  datastore := "postgis"
  maxRetries := 0
  retryBackoffSeconds := 0
  spatial := ⟨"localhost", 5432, "gis", "loader", "secret", "public", .disable⟩
  loader := ⟨"ogr2ogr", 4326, 300000⟩

/-- Plain settings and surroundings, where the job of each number is called by as many letters. -/
def Office.plain : Office Unit where
  settings := .plain
  surroundings := .plain
  jobId n := String.ofList (List.replicate n 'j')

/-- A layer with a source file on the plain disk and nothing imported. -/
def Layer.plain (slug : String) : Layer :=
  .declared ⟨1⟩ "Roads" slug "vector" "line" (some "r.shp") ⟨2020, 1, 1, 0, 0, 0, 0⟩

/-- A layer whose table and entry are those of its slug. -/
def Layer.plainImported : Layer :=
  { Layer.plain "roads" with tableName := some "roads", catalogEntry := some "gis:roads" }

/-- A site with the source file and some layers. -/
def Site.plain (layers : List Layer) : Site Unit where
  disk := ⟨.file (Text.Utf8.encode "r.shp") (.bytes []) .empty, []⟩
  scratchRoot := ⟨[Path.slash]⟩
  records := ⟨layers, []⟩
  working := none
  outside := ()
  stages := []

/-- The plain office never gives two jobs the same id. -/
theorem Office.plain_jobId_injective : Function.Injective Office.plain.jobId := by
  intro a b h
  have hlength := congrArg (fun id : JobId => id.toList.length) h
  simpa [Office.plain] using hlength

/-- Every call succeeds in plain surroundings. -/
theorem Surroundings.plain_answers (c : ServiceCall) (s : Unit) :
    ∃ v, (Surroundings.plain.answer c s).1 = .ok v := by
  cases c <;> exact ⟨_, rfl⟩

end LayerPress
