import LayerPress.Admin.Message
import LayerPress.Jobs.Task
import LayerPress.Records.Document

/-!
# Handling requests

What the administration interface does for each kind of request, as tasks among the jobs. A
fault of the record store is answered as an internal error. A layer whose import is running is
neither deleted nor reset nor imported again; bulk requests say of each layer in the list whether
a job was queued for it or why not.
-/

namespace LayerPress.Admin

/-- Handling that may end early with an answer. -/
abbrev Handling := ExceptT Response Task

namespace Handling

/-- The answer of a handling, however it ended. -/
def answer (h : Handling Response) : Task Response := do
  match ← h.run with
  | .ok r => return r
  | .error r => return r

/-- Executes a statement; a fault is an internal error. -/
def execute (s : Statement) : Handling s.Value :=
  ExceptT.mk do
    let answer ← Task.site (.records (.statement s))
    return answer.mapError fun f => Response.error 500 f.message

/-- Work whose failure is an internal error. -/
def ofAttempt {α : Type} (attempt : Attempt α) : Handling α :=
  ExceptT.mk do
    let answer ← Task.ofWork attempt.run
    return answer.mapError fun f => Response.error 500 f.message

/-- One task action. -/
def ask (a : TaskAction) : Handling a.Answer :=
  liftM (m := Task) (Procedure.ask (S := taskActions) a)

/-- The layer of an id, which must exist. -/
def layer (id : Uuid) : Handling Layer := do
  match ← execute (.findLayer id) with
  | some l => return l
  | none => throw (Response.error 404 "Layer not found")

/-- All layers by title. -/
def listLayers : Handling Response := do
  let layers ← execute .listLayers
  return Response.json 200 (.array (layers.map Layer.document))

/-- One layer with its attributes. -/
def showLayer (id : Uuid) : Handling Response := do
  let l ← layer id
  let attributes ← execute (.listAttributes id)
  return Response.json 200 (l.detailDocument attributes)

/-- Deletes a layer, after queueing the teardown of what was imported. -/
def deleteLayer (id : Uuid) : Handling Response := do
  let l ← layer id
  match ← ask (.runningImport id) with
  | some job => throw (Response.error 409 s!"Import in progress (job_id: {job})")
  | none =>
    if l.hasImports then
      let _ ← ask (.queueTeardown l.tableName l.catalogEntry)
    execute (.deleteAttributes id)
    execute (.deleteLayer id)
    return Response.bare 204

/-- Queues the import of a layer. -/
def submitImport (id : Uuid) : Handling Response := do
  let _ ← layer id
  match ← ask (.queueImport id) with
  | .ok job => return Response.json 202 (.object [("job_id", .string job)])
  | .error running =>
    throw (Response.error 409 s!"Import already in progress (job_id: {running})")

/-- What a bulk request did about one id of its list. -/
inductive Placement where
  | queued (job : JobId)
  | skipped (layer : Uuid) (reason : String)
  deriving DecidableEq, Repr

/-- The queued jobs of a bulk request. -/
def Placement.job? : Placement → Option JobId
  | queued job => some job
  | skipped .. => none

/-- The document of a skipped layer. -/
def Placement.skipped? : Placement → Option Json
  | queued _ => none
  | skipped layer reason =>
    some (.object [("layer_id", .string layer.text), ("reason", .string reason)])

/-- The document of a bulk request: its jobs, and the layers it skipped, each in order. -/
def bulkDocument (placements : List Placement) : Json :=
  .object [
    ("job_ids", .array ((placements.filterMap Placement.job?).map .string)),
    ("skipped", .array (placements.filterMap Placement.skipped?))]

/-- Does the same for each id of a list, in order. -/
def forEach (one : Uuid → Handling Placement) : List Uuid → Handling (List Placement)
  | [] => return []
  | id :: rest => do
    let first ← one id
    let others ← forEach one rest
    return first :: others

/-- Queues the import of one layer of a list, if it has a source file. -/
def importOne (id : Uuid) : Handling Placement := do
  match ← execute (.findLayer id) with
  | none => return .skipped id "not found"
  | some l =>
    if hasText l.sourceFile then
      match ← ask (.queueImport id) with
      | .ok job => return .queued job
      | .error running => return .skipped id s!"already importing (job_id: {running})"
    else return .skipped id "no source file"

/-- Queues the teardown of one layer of a list and clears its record. -/
def resetOne (id : Uuid) : Handling Placement := do
  match ← execute (.findLayer id) with
  | none => return .skipped id "not found"
  | some l =>
    if l.hasImports then
      match ← ask (.runningImport id) with
      | some running => return .skipped id s!"import in progress (job_id: {running})"
      | none =>
        let job ← ask (.queueTeardown l.tableName l.catalogEntry)
        let _ ← ofAttempt (Work.clearImports id)
        return .queued job
    else return .skipped id "nothing to reset"

/-- Queues an import for every listed layer that can have one. -/
def bulkImport (ids : List Uuid) : Handling Response := do
  return Response.json 200 (bulkDocument (← forEach importOne ids))

/-- Tears down and clears every listed layer that has something imported. -/
def bulkReset (ids : List Uuid) : Handling Response := do
  return Response.json 200 (bulkDocument (← forEach resetOne ids))

/-- The catalog's document of a published layer. -/
def catalogLayer (id : Uuid) : Handling Response := do
  let l ← layer id
  match l.catalogEntry with
  | none => throw (Response.error 404 "Layer is not published")
  | some entry =>
    match Naming.splitEntry entry with
    | none => throw (Response.error 404 ("Malformed catalog entry: " ++ entry))
    | some (workspace, name) =>
      match ← liftM (m := Task) (Task.site (.call (.info name workspace))) with
      | .error f => throw (Response.error 502 f.message)
      | .ok none => throw (Response.error 404 "Layer not found in catalog")
      | .ok (some document) => return Response.json 200 document

/-- The document of a job. -/
def jobDocument (j : Job) (elapsed : Nat) : Json :=
  .object [
    ("job_id", .string j.id),
    ("kind", .string j.kind.text),
    ("layer_id", Json.ofText? (j.layer.map Uuid.text)),
    ("status", .string j.status.text),
    ("elapsed_ms", .integer (elapsed / 1000000)),
    ("result", Json.ofOption id j.result),
    ("error", Json.ofText? j.error)]

/-- The status of a job. -/
def showJob (id : JobId) : Handling Response := do
  match ← ask (.job id) with
  | some (j, elapsed) => return Response.json 200 (jobDocument j elapsed)
  | none => throw (Response.error 404 "Job not found")

/-- The events of a job from now on. -/
def followJob (id : JobId) : Handling Response := do
  match ← ask (.subscribe id) with
  | some receiver => return Response.stream receiver
  | none => throw (Response.error 404 "Job not found")

end Handling

end LayerPress.Admin
